/-
  The shape of a text by its pieces.

  A text is cut at its line ends: at each line feed, at each carriage return, and at the two of
  them together where a line feed comes right behind a carriage return. `Cut` says what the
  pieces are without saying how they are found; every text has exactly one cut (`cut_iff`). The
  scan passes over the text once, with one character of lookahead, and never holds a line. It
  finds as many rows as there are pieces, an empty one at the end aside, and the columns of the
  first piece (`shapeOf_cut`).
-/
import Gridscript.Proofs.Csv.Format

namespace Gridscript.Csv

/-- The pieces of a text between its line ends, the last of them up to the end of the text. A
    carriage return is a line end of its own unless a line feed follows. -/
inductive Cut : List Char → List (List Char) → Prop
  | last {piece : List Char} (hn : '\n' ∉ piece) (hr : '\r' ∉ piece) : Cut piece [piece]
  | next {piece : List Char} (hn : '\n' ∉ piece) (hr : '\r' ∉ piece) (e : LineEnd)
      {rest : List Char} (he : e = .carriageReturn → rest.head? ≠ some '\n')
      {pieces : List (List Char)} (h : Cut rest pieces) :
      Cut (piece ++ (e.text ++ rest)) (piece :: pieces)

/-- The pieces without the last, if that is empty. -/
def withoutEmptyEnd (pieces : List (List Char)) : List (List Char) :=
  if pieces.getLast? = some [] then pieces.dropLast else pieces

/-- The pieces of a text. There is at least one. -/
def piecesOf : List Char → List (List Char)
  | [] => [[]]
  | '\r' :: '\n' :: rest => [] :: piecesOf rest
  | c :: rest => if isLineEnd c then [] :: piecesOf rest else prepend c (piecesOf rest)

theorem piecesOf_cons {c : Char} (hc : isLineEnd c = false) (rest : List Char) :
    piecesOf (c :: rest) = prepend c (piecesOf rest) := by
  rw [piecesOf, if_neg (by simp [hc])]
  rintro r rfl rfl
  simp [isLineEnd] at hc

theorem piecesOf_lineEnd (e : LineEnd) {rest : List Char}
    (he : e = .carriageReturn → rest.head? ≠ some '\n') :
    piecesOf (e.text ++ rest) = [] :: piecesOf rest := by
  cases e with
  | feed => exact piecesOf.eq_3 '\n' rest (by rintro r ⟨⟩)
  | returnFeed => rfl
  | carriageReturn =>
      refine piecesOf.eq_3 '\r' rest ?_
      rintro r - rfl
      exact he rfl rfl

theorem isLineEnd_eq_false {c : Char} {piece : List Char} (hn : '\n' ∉ piece) (hr : '\r' ∉ piece)
    (hc : c ∈ piece) : isLineEnd c = false := by
  simp only [isLineEnd, Bool.or_eq_false_iff, beq_eq_false_iff_ne]
  exact ⟨fun h => hn (h ▸ hc), fun h => hr (h ▸ hc)⟩

/-- Characters before a text that end no line go into its first piece. -/
theorem piecesOf_append {piece : List Char} (hp : ∀ c ∈ piece, isLineEnd c = false)
    {rest first : List Char} {pieces : List (List Char)} (h : piecesOf rest = first :: pieces) :
    piecesOf (piece ++ rest) = (piece ++ first) :: pieces := by
  induction piece with
  | nil => exact h
  | cons c piece ih =>
      rw [List.cons_append, piecesOf_cons (hp c List.mem_cons_self),
        ih fun d hd => hp d (List.mem_cons_of_mem _ hd)]
      rfl

theorem Cut.eq_piecesOf {text : List Char} {pieces : List (List Char)} (h : Cut text pieces) :
    pieces = piecesOf text := by
  induction h with
  | @last piece hn hr =>
      have hp := piecesOf_append (fun c hc => isLineEnd_eq_false hn hr hc)
        (show piecesOf [] = [[]] from rfl)
      rw [List.append_nil] at hp
      exact hp.symm
  | next hn hr e he h ih =>
      rw [piecesOf_append (fun c hc => isLineEnd_eq_false hn hr hc) (piecesOf_lineEnd e he),
        List.append_nil, ih]

theorem Cut.prepend {text : List Char} {pieces : List (List Char)} (h : Cut text pieces)
    {c : Char} (hc : isLineEnd c = false) : Cut (c :: text) (Csv.prepend c pieces) := by
  simp only [isLineEnd, Bool.or_eq_false_iff, beq_eq_false_iff_ne] at hc
  have hmem : ∀ {d : Char} {piece : List Char}, c ≠ d → d ∉ piece → d ∉ c :: piece :=
    fun hne hd => List.not_mem_cons_of_ne_of_not_mem (Ne.symm hne) hd
  cases h with
  | last hn hr => exact .last (hmem hc.1 hn) (hmem hc.2 hr)
  | next hn hr e he h => exact .next (hmem hc.1 hn) (hmem hc.2 hr) e he h

theorem cut_piecesOf (text : List Char) : Cut text (piecesOf text) := by
  fun_induction piecesOf text with
  | case1 => exact .last List.not_mem_nil List.not_mem_nil
  | case2 rest ih => exact .next List.not_mem_nil List.not_mem_nil .returnFeed nofun ih
  | case3 c rest hne hc ih =>
      obtain ⟨e, he⟩ := exists_lineEnd hc
      rw [← List.singleton_append, ← he]
      refine .next List.not_mem_nil List.not_mem_nil e ?_ ih
      rintro rfl hhead
      obtain ⟨r, rfl⟩ := List.head?_eq_some_iff.1 hhead
      exact hne r (List.singleton_inj.1 he).symm rfl
  | case4 c rest hne hc ih => exact ih.prepend (Bool.not_eq_true _ ▸ hc)

/-- A text has one cut. -/
theorem cut_iff (text : List Char) (pieces : List (List Char)) :
    Cut text pieces ↔ pieces = piecesOf text :=
  ⟨Cut.eq_piecesOf, fun h => h ▸ cut_piecesOf text⟩

theorem piecesOf_ne_nil (text : List Char) : piecesOf text ≠ [] := by
  have h := cut_piecesOf text
  intro hnil
  rw [hnil] at h
  cases h

theorem withoutEmptyEnd_cons (piece : List Char) {pieces : List (List Char)} (h : pieces ≠ []) :
    withoutEmptyEnd (piece :: pieces) = piece :: withoutEmptyEnd pieces := by
  obtain ⟨p, ps, rfl⟩ := List.exists_cons_of_ne_nil h
  unfold withoutEmptyEnd
  rw [List.getLast?_cons_cons, List.dropLast_cons_cons]
  split <;> rfl

/-- Characters that go into the first piece keep it, even where it was an empty one at the
    end. -/
theorem withoutEmptyEnd_prepend (c : Char) {pieces : List (List Char)} (h : pieces ≠ []) :
    withoutEmptyEnd (prepend c pieces) = prepend c (withoutEmptyEnd pieces) := by
  obtain ⟨p, ps, rfl⟩ := List.exists_cons_of_ne_nil h
  cases ps with
  | nil => cases p <;> rfl
  | cons q ps =>
      rw [withoutEmptyEnd_cons p (List.cons_ne_nil q ps)]
      exact withoutEmptyEnd_cons (c :: p) (List.cons_ne_nil q ps)

theorem withoutEmptyEnd_piecesOf (text : List Char) :
    withoutEmptyEnd (piecesOf text) = lines text := by
  fun_induction lines text with
  | case1 => rfl
  | case2 rest ih => exact (withoutEmptyEnd_cons [] (piecesOf_ne_nil rest)).trans (by rw [ih])
  | case3 c rest hne hc ih =>
      rw [piecesOf.eq_3 c rest hne, if_pos hc, withoutEmptyEnd_cons [] (piecesOf_ne_nil rest), ih]
  | case4 c rest hne hc ih =>
      rw [piecesOf.eq_3 c rest hne, if_neg hc, withoutEmptyEnd_prepend c (piecesOf_ne_nil rest), ih]

/-- The scan finds a row for each piece of the text, an empty one at the end aside, and in the
    first of them a column more than it has commas, one at its end aside. -/
theorem shapeOf_cut (text : List Char) :
    ∃ pieces, (∀ other, Cut text other ↔ other = pieces) ∧
      (shapeOf text).rows = (withoutEmptyEnd pieces).length ∧
      (shapeOf text).cols =
        (withoutEmptyEnd pieces).head?.elim 0 fun first => 1 + (trimComma first).count ',' := by
  refine ⟨piecesOf text, cut_iff text, ?_, ?_⟩
  · rw [withoutEmptyEnd_piecesOf, shapeOf_eq]
  · rw [withoutEmptyEnd_piecesOf, shapeOf_eq]
    by_cases h : text = []
    · simp [h]
    · obtain ⟨first, others, hl⟩ := List.exists_cons_of_ne_nil (mt (lines_eq_nil_iff text).1 h)
      rw [hl, if_neg h]
      exact Nat.add_comm _ _

/-- Two line ends of two characters that share none, then one of one character, and a comma at
    the end of the first line. -/
example :
    piecesOf "1,,2,\r\n\r\r\n3".toList = ["1,,2,".toList, [], [], ['3']] ∧
      shapeOf "1,,2,\r\n\r\r\n3".toList = ⟨4, 3⟩ := by
  decide +kernel

end Gridscript.Csv
