/-
  Sources as layouts of tokens.

  `Layout` says how tokens can be written down: each in one of its spellings, after any number of
  blanks, of which there has to be one where two tokens would run into each other, and with a
  comment at the end of any line. A source has the tokens that it is a layout of, and each stands
  on the line that the line ends before it lead to (`lexemes_eq_ok_iff_layout`).

  Blanks, digits and the characters that words start with exclude each other, so it does not
  matter which of them is looked for first. A token ends where no spelling of it goes on; in a
  layout that is right before the next token or the blanks in front of it (`Layout.endsBefore`).
-/
import Gridscript.Proofs.Element.Numeral
import Gridscript.Proofs.Outcome
import Gridscript.Script.Lexeme

namespace Gridscript.Script

/-! ## Classes of characters -/

theorem of_toNat_mem {P : Char → Prop} {codes : List Nat} (h : ∀ n ∈ codes, P (Char.ofNat n))
    {c : Char} (hc : c.toNat ∈ codes) : P c := by
  have hp := h c.toNat hc
  rwa [Char.ofNat_toNat] at hp

theorem isWordPart_of_isBlank {c : Char} (h : Text.isBlank c = true) : isWordPart c = false := by
  have hcodes : ∀ n ∈ Text.blankRanges.flatMap fun r => List.range' r.1 (r.2 + 1 - r.1),
      isWordPart (Char.ofNat n) = false := by
    decide +kernel
  refine of_toNat_mem (P := fun c => isWordPart c = false) hcodes ?_
  obtain ⟨r, hr, hc⟩ := List.any_eq_true.1 h
  simp only [Bool.and_eq_true, decide_eq_true_eq] at hc
  exact List.mem_flatMap.2 ⟨r, hr, List.mem_range'_1.2 ⟨hc.1, by omega⟩⟩

theorem classes_of_isDigit {c : Char} (h : c.isDigit = true) :
    c ≠ '\n' ∧ Text.isBlank c = false ∧ c ≠ '#' ∧ isWordStart c = false := by
  have hcodes : ∀ n ∈ List.range' 48 10, Char.ofNat n ≠ '\n' ∧
      Text.isBlank (Char.ofNat n) = false ∧ Char.ofNat n ≠ '#' ∧
      isWordStart (Char.ofNat n) = false := by
    decide +kernel
  obtain ⟨hlo, hhi⟩ := Char.isDigit_iff_toNat.1 h
  exact of_toNat_mem (P := fun c => c ≠ '\n' ∧ Text.isBlank c = false ∧ c ≠ '#' ∧
    isWordStart c = false) hcodes (List.mem_range'_1.2 ⟨hlo, Nat.lt_succ_of_le hhi⟩)

theorem isDigit_of_isBlank {c : Char} (h : Text.isBlank c = true) : c.isDigit = false := by
  refine Bool.eq_false_iff.2 fun hdigit => ?_
  have hblank := (classes_of_isDigit hdigit).2.1
  rw [h] at hblank
  cases hblank

theorem isWordPart_of_isDigit {c : Char} (h : c.isDigit = true) : isWordPart c = true := by
  unfold isWordPart Text.isNumeral
  rw [h, Bool.true_or, Bool.or_true, Bool.true_or]

theorem isWordPart_of_isWordStart {c : Char} (h : isWordStart c = true) : isWordPart c = true := by
  unfold isWordStart at h
  unfold isWordPart
  rw [Bool.or_right_comm, h, Bool.true_or]

theorem classes_of_isWordStart {c : Char} (h : isWordStart c = true) :
    c ≠ '\n' ∧ Text.isBlank c = false ∧ c ≠ '#' ∧ c.isDigit = false := by
  refine ⟨?_, Bool.eq_false_iff.2 fun hblank => ?_, ?_, Bool.eq_false_iff.2 fun hdigit => ?_⟩
  · rintro rfl
    exact absurd h (by decide +kernel)
  · have hpart := isWordPart_of_isBlank hblank
    rw [isWordPart_of_isWordStart h] at hpart
    cases hpart
  · rintro rfl
    exact absurd h (by decide +kernel)
  · have hstart := (classes_of_isDigit hdigit).2.2.2
    rw [h] at hstart
    cases hstart

theorem classes_of_symbol {c : Char} {t : Token} (h : symbol? c = some t) :
    c ≠ '\n' ∧ Text.isBlank c = false ∧ c ≠ '#' ∧ c.isDigit = false ∧ isWordPart c = false := by
  unfold symbol? at h
  split at h <;> first | decide +kernel | cases h

/-! ## Spellings -/

/-- A character that words start with, then any that they go on with. -/
def IsWordText (cs : List Char) : Prop :=
  ∃ c rest, cs = c :: rest ∧ isWordStart c = true ∧ ∀ d ∈ rest, isWordPart d = true

theorem IsWordText.isWordPart {cs : List Char} (h : IsWordText cs) :
    ∀ c ∈ cs, isWordPart c = true := by
  obtain ⟨c, rest, rfl, hc, hrest⟩ := h
  exact List.forall_mem_cons.2 ⟨isWordPart_of_isWordStart hc, hrest⟩

theorem isWordText_keyword :
    IsWordText "persistent".toList ∧ IsWordText "transpose".toList := by
  refine ⟨⟨'p', "ersistent".toList, rfl, ?_, List.all_eq_true.1 ?_⟩,
    ⟨'t', "ranspose".toList, rfl, ?_, List.all_eq_true.1 ?_⟩⟩
  all_goals decide +kernel

namespace Token

/-- The character of a token that is written with one, always the same. -/
def char? : Token → Option Char
  | plus => some '+'
  | minus => some '-'
  | star => some '*'
  | slash => some '/'
  | assign => some '='
  | lbracket => some '['
  | rbracket => some ']'
  | lparen => some '('
  | rparen => some ')'
  | _ => none

/-- The texts of a token within a line. -/
inductive Spelled : Token → List Char → Prop
  | ident {name : String} (h : IsWordText name.toList) (hp : name ≠ "persistent")
      (ht : name ≠ "transpose") : Spelled (ident name) name.toList
  | int {n : Scalar} (h : 0 ≤ n.val) (zeros : Nat) :
      Spelled (int n) (List.replicate zeros '0' ++ n.text)
  | persistent : Spelled persistent "persistent".toList
  | transpose : Spelled transpose "transpose".toList
  | char {t : Token} {c : Char} (h : t.char? = some c) : Spelled t [c]

/-- A name or a keyword. -/
def isWord : Token → Bool
  | ident _ => true
  | persistent => true
  | transpose => true
  | _ => false

def isNumber : Token → Bool
  | int _ => true
  | _ => false

/-- With nothing between them the two would be read as something else. -/
def RunsInto (t u : Token) : Prop :=
  t.isWord = true ∧ (u.isWord = true ∨ u.isNumber = true) ∨
    t.isNumber = true ∧ u.isNumber = true

theorem char?_eq_some_iff {t : Token} {c : Char} : t.char? = some c ↔ symbol? c = some t := by
  constructor
  · intro h
    cases t <;> cases h <;> rfl
  · intro h
    unfold symbol? at h
    split at h <;> cases h <;> rfl

theorem isWord_wordToken (word : String) :
    (wordToken word).isWord = true ∧ (wordToken word).isNumber = false := by
  unfold wordToken
  split
  · exact ⟨rfl, rfl⟩
  · split <;> exact ⟨rfl, rfl⟩

theorem isWord_symbol {c : Char} {t : Token} (h : symbol? c = some t) :
    t.isWord = false ∧ t.isNumber = false := by
  unfold symbol? at h
  split at h <;> cases h <;> exact ⟨rfl, rfl⟩

theorem spelled_wordToken {text : List Char} (h : IsWordText text) :
    (wordToken (String.ofList text)).Spelled text := by
  have htext : (String.ofList text).toList = text := String.toList_ofList
  generalize String.ofList text = word at htext
  subst htext
  unfold wordToken
  split
  · rename_i hp
    rw [hp]
    exact .persistent
  · rename_i hp
    split
    · rename_i ht
      rw [ht]
      exact .transpose
    · rename_i ht
      exact .ident h hp ht

theorem spelled_int {digits : List Char} {n : Scalar} (h : Decimal.Digits digits)
    (hn : Element.ofText? .i64 digits = some n) : (int n).Spelled digits := by
  obtain ⟨hpos, zeros, rfl⟩ := (Element.ofText?_digits_iff h n).1 hn
  exact .int hpos zeros

/-- The three kinds of spellings, as they are recognized. -/
theorem Spelled.cases {t : Token} {text : List Char} (h : t.Spelled text) :
    IsWordText text ∧ t = wordToken (String.ofList text) ∨
      (∃ n, t = .int n ∧ Decimal.Digits text ∧ Element.ofText? .i64 text = some n) ∨
      ∃ c, text = [c] ∧ symbol? c = some t := by
  cases h with
  | @ident name h hp ht =>
      refine .inl ⟨h, ?_⟩
      rw [String.ofList_toList, wordToken, if_neg hp, if_neg ht]
  | @int n h zeros =>
      obtain ⟨m, hm⟩ := Int.eq_ofNat_of_zero_le h
      have hdigits : Decimal.Digits (List.replicate zeros '0' ++ n.text) := by
        rw [Element.text, hm]
        exact (Decimal.digits_zeros zeros m).1
      exact .inr (.inl ⟨n, rfl, hdigits, (Element.ofText?_digits_iff hdigits n).2 ⟨h, zeros, rfl⟩⟩)
  | persistent =>
      refine .inl ⟨isWordText_keyword.1, ?_⟩
      rw [String.ofList_toList]
      rfl
  | transpose =>
      refine .inl ⟨isWordText_keyword.2, ?_⟩
      rw [String.ofList_toList]
      rfl
  | char h => exact .inr (.inr ⟨_, rfl, char?_eq_some_iff.1 h⟩)

/-- The characters that a spelling of the token can go on with. -/
def goesOn (t : Token) (c : Char) : Bool := t.isWord && isWordPart c || t.isNumber && c.isDigit

/-- The text does not go on with a spelling of the token. -/
def EndsBefore (t : Token) (text : List Char) : Prop := ∀ c ∈ text.head?, t.goesOn c = false

theorem endsBefore_nil (t : Token) : t.EndsBefore [] := nofun

theorem endsBefore_newline (text : List Char) : newline.EndsBefore text := fun _ _ => rfl

theorem endsBefore_cons {c : Char} (hpart : isWordPart c = false) (hdigit : c.isDigit = false)
    (t : Token) (text : List Char) : t.EndsBefore (c :: text) := by
  intro d hd
  obtain rfl : c = d := Option.some.inj hd
  rw [goesOn, hpart, hdigit, Bool.and_false, Bool.and_false]
  rfl

/-- A token ends before another one exactly if the two do not run into each other. -/
theorem Spelled.endsBefore_iff {t u : Token} {text : List Char} (h : u.Spelled text)
    (rest : List Char) : t.EndsBefore (text ++ rest) ↔ ¬ t.RunsInto u := by
  have hcons : ∀ {c : Char} {more : List Char},
      t.EndsBefore (c :: more ++ rest) ↔ t.goesOn c = false := by
    intro c more
    simp [EndsBefore]
  obtain ⟨⟨c, more, rfl, hc, -⟩, hu⟩ | ⟨n, rfl, ⟨hne, hdigits⟩, -⟩ | ⟨c, rfl, hc⟩ := h.cases
  · obtain ⟨hword, hnumber⟩ := isWord_wordToken (String.ofList (c :: more))
    rw [← hu] at hword hnumber
    have hdigit := (classes_of_isWordStart hc).2.2.2
    rw [hcons]
    simp [goesOn, RunsInto, hword, hnumber, hdigit, isWordPart_of_isWordStart hc]
  · obtain ⟨c, more, rfl⟩ := List.exists_cons_of_ne_nil hne
    have hdigit := hdigits c List.mem_cons_self
    rw [hcons]
    simp [goesOn, RunsInto, isWord, isNumber, hdigit, isWordPart_of_isDigit hdigit]
  · obtain ⟨hword, hnumber⟩ := isWord_symbol hc
    obtain ⟨-, -, -, hdigit, hpart⟩ := classes_of_symbol hc
    rw [hcons]
    simp [goesOn, RunsInto, hword, hnumber, hdigit, hpart]

/-- A token within a line is written without line feeds. -/
theorem Spelled.not_mem {t : Token} {text : List Char} (h : t.Spelled text) : '\n' ∉ text := by
  intro hmem
  obtain ⟨hword, -⟩ | ⟨n, -, hdigits, -⟩ | ⟨c, rfl, hc⟩ := h.cases
  · exact absurd (hword.isWordPart _ hmem) (by decide +kernel)
  · exact absurd (hdigits.2 _ hmem) (by decide)
  · exact (classes_of_symbol hc).1 (List.mem_singleton.1 hmem).symm

theorem Spelled.ne_newline {t : Token} {text : List Char} (h : t.Spelled text) :
    t ≠ .newline := by
  rintro rfl
  cases h with
  | char h => cases h

theorem Spelled.ne_nil {t : Token} {text : List Char} (h : t.Spelled text) : text ≠ [] := by
  obtain ⟨⟨c, rest, rfl, -⟩, -⟩ | ⟨n, -, hdigits, -⟩ | ⟨c, rfl, -⟩ := h.cases
  · exact List.cons_ne_nil _ _
  · exact hdigits.1
  · exact List.cons_ne_nil _ _

end Token

/-! ## Layouts -/

/-- Blanks within a line. -/
def IsGap (cs : List Char) : Prop := ∀ c ∈ cs, Text.isBlank c = true ∧ c ≠ '\n'

/-- Nothing, or a comment. -/
def IsRemark (cs : List Char) : Prop := cs = [] ∨ ∃ text, cs = '#' :: text ∧ '\n' ∉ text

/-- `Layout before ts text`: right after the token `before`, the text is a layout of the tokens
    `ts`. The start of a source counts as the start of a line. -/
inductive Layout : Token → List Token → List Char → Prop
  | finish {before : Token} {gap remark : List Char} (hg : IsGap gap) (hr : IsRemark remark) :
      Layout before [] (gap ++ remark)
  | newline {before : Token} {ts : List Token} {gap remark rest : List Char} (hg : IsGap gap)
      (hr : IsRemark remark) (h : Layout .newline ts rest) :
      Layout before (.newline :: ts) (gap ++ (remark ++ '\n' :: rest))
  | token {before t : Token} {ts : List Token} {gap text rest : List Char} (hg : IsGap gap)
      (ht : t.Spelled text) (hsep : before.RunsInto t → gap ≠ []) (h : Layout t ts rest) :
      Layout before (t :: ts) (gap ++ (text ++ rest))

theorem isGap_nil : IsGap [] := nofun

theorem IsGap.cons {c : Char} {gap : List Char} (hb : Text.isBlank c = true) (hn : c ≠ '\n')
    (h : IsGap gap) : IsGap (c :: gap) :=
  List.forall_mem_cons.2 ⟨⟨hb, hn⟩, h⟩

theorem IsGap.endsBefore {t : Token} {gap rest : List Char} (h : IsGap gap)
    (hrest : gap = [] → t.EndsBefore rest) : t.EndsBefore (gap ++ rest) := by
  cases gap with
  | nil => exact hrest rfl
  | cons c gap =>
      have hc := (h c List.mem_cons_self).1
      exact Token.endsBefore_cons (isWordPart_of_isBlank hc) (isDigit_of_isBlank hc) t _

theorem IsRemark.endsBefore {t : Token} {remark rest : List Char} (h : IsRemark remark)
    (hrest : t.EndsBefore rest) : t.EndsBefore (remark ++ rest) := by
  obtain rfl | ⟨text, rfl, -⟩ := h
  · exact hrest
  · exact Token.endsBefore_cons (by decide +kernel) (by decide) t _

/-- In a layout the token before has ended. -/
theorem Layout.endsBefore {before : Token} {ts : List Token} {text : List Char}
    (h : Layout before ts text) : before.EndsBefore text := by
  cases h with
  | finish hg hr =>
      refine hg.endsBefore fun _ => ?_
      have hend := hr.endsBefore (Token.endsBefore_nil before)
      rwa [List.append_nil] at hend
  | newline hg hr _ =>
      refine hg.endsBefore fun _ => hr.endsBefore ?_
      exact Token.endsBefore_cons (by decide +kernel) (by decide) before _
  | token hg ht hsep _ =>
      exact hg.endsBefore fun hgap => (ht.endsBefore_iff _).2 fun hruns => hsep hruns hgap

/-! ## Tokens of layouts -/

/-- Tokens with their lines, the first of them on line `line`. -/
def placed (line : Nat) : List Token → List Lexeme
  | [] => []
  | t :: ts => ⟨line, t⟩ :: placed (if t = .newline then line + 1 else line) ts

theorem takeWhile_append_of_stops {p : Char → Bool} {xs rest : List Char}
    (hxs : ∀ c ∈ xs, p c = true) (hrest : ∀ c ∈ rest.head?, p c = false) :
    (xs ++ rest).takeWhile p = xs ∧ (xs ++ rest).dropWhile p = rest := by
  rw [List.takeWhile_append_of_pos hxs, List.dropWhile_append_of_pos hxs]
  cases rest with
  | nil => exact ⟨List.append_nil xs, rfl⟩
  | cons c rest =>
      have hc : ¬ p c = true := Bool.eq_false_iff.1 (hrest c rfl)
      rw [List.takeWhile_cons_of_neg hc, List.dropWhile_cons_of_neg hc]
      exact ⟨List.append_nil xs, rfl⟩

theorem of_mem_head?_dropWhile {p : Char → Bool} {xs : List Char} {c : Char}
    (h : c ∈ (xs.dropWhile p).head?) : p c = false := by
  have hhead := List.head?_dropWhile_not p xs
  rw [Option.mem_def.1 h] at hhead
  exact hhead

theorem lexemesFrom_newline (line : Nat) (rest : List Char) :
    lexemesFrom line ('\n' :: rest) =
      (lexemesFrom (line + 1) rest).map (⟨line, .newline⟩ :: ·) := by
  rw [lexemesFrom, if_pos rfl]

theorem lexemesFrom_gap {gap : List Char} (h : IsGap gap) (line : Nat) (rest : List Char) :
    lexemesFrom line (gap ++ rest) = lexemesFrom line rest := by
  induction gap with
  | nil => rfl
  | cons c gap ih =>
      obtain ⟨hblank, hne⟩ := h c List.mem_cons_self
      rw [List.cons_append, lexemesFrom, if_neg hne, if_pos hblank]
      exact ih fun d hd => h d (List.mem_cons_of_mem _ hd)

/-- A comment ends at the next line feed or with the source. -/
theorem lexemesFrom_remark {remark : List Char} (h : IsRemark remark) (line : Nat)
    (rest : List Char) (hrest : ∀ c ∈ rest.head?, c = '\n') :
    lexemesFrom line (remark ++ rest) = lexemesFrom line rest := by
  obtain rfl | ⟨text, rfl, htext⟩ := h
  · rfl
  · have hskip : (text ++ rest).dropWhile (· != '\n') = rest := by
      refine (takeWhile_append_of_stops (fun c hc => ?_) fun c hc => ?_).2
      · refine bne_iff_ne.2 ?_
        rintro rfl
        exact htext hc
      · rw [hrest c hc]
        rfl
    rw [List.cons_append, lexemesFrom, if_neg (by decide), if_neg (by decide), if_pos rfl, hskip]

theorem lexemesFrom_word {word rest : List Char} (h : IsWordText word)
    (hrest : ∀ c ∈ rest.head?, isWordPart c = false) (line : Nat) :
    lexemesFrom line (word ++ rest) =
      (lexemesFrom line rest).map (⟨line, wordToken (String.ofList word)⟩ :: ·) := by
  obtain ⟨c, more, rfl, hc, hmore⟩ := h
  obtain ⟨hfeed, hblank, hhash, hdigit⟩ := classes_of_isWordStart hc
  obtain ⟨htake, hdrop⟩ := takeWhile_append_of_stops hmore hrest
  rw [List.cons_append, lexemesFrom, if_neg hfeed, if_neg (Bool.eq_false_iff.1 hblank),
    if_neg hhash, if_neg (Bool.eq_false_iff.1 hdigit), if_pos hc, htake, hdrop]

theorem lexemesFrom_digits {digits rest : List Char} {n : Scalar} (h : Decimal.Digits digits)
    (hn : Element.ofText? .i64 digits = some n) (hrest : ∀ c ∈ rest.head?, c.isDigit = false)
    (line : Nat) :
    lexemesFrom line (digits ++ rest) = (lexemesFrom line rest).map (⟨line, .int n⟩ :: ·) := by
  obtain ⟨hne, hall⟩ := h
  obtain ⟨c, more, rfl⟩ := List.exists_cons_of_ne_nil hne
  have hc := hall c List.mem_cons_self
  obtain ⟨hfeed, hblank, hhash, -⟩ := classes_of_isDigit hc
  obtain ⟨htake, hdrop⟩ :=
    takeWhile_append_of_stops (fun d hd => hall d (List.mem_cons_of_mem _ hd)) hrest
  rw [List.cons_append, lexemesFrom, if_neg hfeed, if_neg (Bool.eq_false_iff.1 hblank),
    if_neg hhash, if_pos hc, htake, hdrop]
  simp only [hn]

theorem lexemesFrom_symbol {c : Char} {t : Token} (h : symbol? c = some t) (line : Nat)
    (rest : List Char) :
    lexemesFrom line (c :: rest) = (lexemesFrom line rest).map (⟨line, t⟩ :: ·) := by
  obtain ⟨hfeed, hblank, hhash, hdigit, hpart⟩ := classes_of_symbol h
  have hstart : ¬ isWordStart c = true := by
    intro hc
    rw [isWordPart_of_isWordStart hc] at hpart
    cases hpart
  rw [lexemesFrom, if_neg hfeed, if_neg (Bool.eq_false_iff.1 hblank), if_neg hhash,
    if_neg (Bool.eq_false_iff.1 hdigit), if_neg hstart]
  simp only [h]

/-- A token in one of its spellings is found where it ends. -/
theorem lexemesFrom_spelled {t : Token} {text rest : List Char} (h : t.Spelled text)
    (hrest : t.EndsBefore rest) (line : Nat) :
    lexemesFrom line (text ++ rest) = (lexemesFrom line rest).map (⟨line, t⟩ :: ·) := by
  obtain ⟨hword, rfl⟩ | ⟨n, rfl, hdigits, hn⟩ | ⟨c, rfl, hc⟩ := h.cases
  · refine lexemesFrom_word hword (fun c hc => ?_) line
    have hgoes := hrest c hc
    rw [Token.goesOn, (Token.isWord_wordToken _).1, (Token.isWord_wordToken _).2, Bool.true_and,
      Bool.false_and, Bool.or_false] at hgoes
    exact hgoes
  · exact lexemesFrom_digits hdigits hn (fun c hc => hrest c hc) line
  · exact lexemesFrom_symbol hc line rest

/-- A layout is read as its tokens. -/
theorem Layout.lexemesFrom_eq {before : Token} {ts : List Token} {text : List Char}
    (h : Layout before ts text) (line : Nat) :
    lexemesFrom line text = .ok (placed line (ts ++ [.eof])) := by
  induction h generalizing line with
  | @finish _ gap remark hg hr =>
      rw [lexemesFrom_gap hg, ← List.append_nil remark, lexemesFrom_remark hr line [] nofun,
        lexemesFrom]
      rfl
  | @newline _ ts gap remark rest hg hr _ ih =>
      have hfeed : ∀ c ∈ ('\n' :: rest).head?, c = '\n' := fun c hc => (Option.some.inj hc).symm
      rw [lexemesFrom_gap hg, lexemesFrom_remark hr line _ hfeed, lexemesFrom_newline, ih]
      rfl
  | @token _ t ts _ _ _ hg ht _ h ih =>
      rw [lexemesFrom_gap hg, lexemesFrom_spelled ht h.endsBefore, ih, List.cons_append, placed,
        if_neg ht.ne_newline]
      rfl

/-! ## Layouts of sources -/

theorem Layout.blank {c : Char} {ts : List Token} {text : List Char} (hb : Text.isBlank c = true)
    (hn : c ≠ '\n') (h : Layout .newline ts text) (before : Token) :
    Layout before ts (c :: text) := by
  cases h with
  | finish hg hr => exact .finish (hg.cons hb hn) hr
  | newline hg hr h => exact .newline (hg.cons hb hn) hr h
  | token hg ht _ h => exact .token (hg.cons hb hn) ht (fun _ => List.cons_ne_nil _ _) h

/-- A comment goes before the layout of what follows its line. -/
theorem Layout.comment {body rest : List Char} {ts : List Token} (hbody : '\n' ∉ body)
    (hrest : ∀ c ∈ rest.head?, c = '\n') (h : Layout .newline ts rest) (before : Token) :
    Layout before ts ('#' :: (body ++ rest)) := by
  have hremark : IsRemark ('#' :: body) := .inr ⟨body, rfl, hbody⟩
  have hgap : ∀ {gap more : List Char}, IsGap gap → (∀ c ∈ (gap ++ more).head?, c = '\n') →
      gap = [] := by
    intro gap more hg hhead
    cases gap with
    | nil => rfl
    | cons c gap => exact absurd (hhead c rfl) (hg c List.mem_cons_self).2
  have hnone : ∀ {remark more : List Char}, IsRemark remark →
      (∀ c ∈ (remark ++ more).head?, c = '\n') → remark = [] := by
    intro remark more hr hhead
    obtain rfl | ⟨text, rfl, -⟩ := hr
    · rfl
    · exact absurd (hhead '#' rfl) (by decide)
  cases h with
  | @finish _ gap remark hg hr =>
      obtain rfl := hgap hg hrest
      rw [← List.append_nil ([] ++ remark)] at hrest
      obtain rfl := hnone hr hrest
      rw [List.append_nil, List.append_nil]
      exact .finish isGap_nil hremark
  | newline hg hr h =>
      obtain rfl := hgap hg hrest
      obtain rfl := hnone hr hrest
      exact .newline isGap_nil hremark h
  | @token _ t ts gap text more hg ht _ _ =>
      obtain rfl := hgap hg hrest
      obtain ⟨c, text, rfl⟩ := List.exists_cons_of_ne_nil ht.ne_nil
      obtain rfl := hrest c rfl
      exact absurd List.mem_cons_self ht.not_mem

/-- A token that the token before has ended at needs no blank in front of it. -/
theorem Layout.spelled {before t : Token} {ts : List Token} {text rest : List Char}
    (ht : t.Spelled text) (hbefore : before.EndsBefore (text ++ rest)) (h : Layout t ts rest) :
    Layout before (t :: ts) (text ++ rest) :=
  .token isGap_nil ht (fun hruns => absurd hruns ((ht.endsBefore_iff rest).1 hbefore)) h

/-- What is read is a layout of the tokens, whatever token has ended before it. -/
theorem layout_of_lexemesFrom {line : Nat} {text : List Char} {us : List Lexeme}
    (h : lexemesFrom line text = .ok us) {before : Token} (hbefore : before.EndsBefore text) :
    ∃ ts, Layout before ts text ∧ us = placed line (ts ++ [.eof]) := by
  fun_induction lexemesFrom line text generalizing us before with
  | case1 line =>
      cases h
      exact ⟨[], .finish isGap_nil (.inl rfl), rfl⟩
  | case2 line rest ih =>
      obtain ⟨vs, hvs, rfl⟩ := (Outcome.map_eq_ok_iff _ _ _).1 h
      obtain ⟨ts, hlayout, rfl⟩ := ih hvs (Token.endsBefore_newline rest)
      exact ⟨.newline :: ts, .newline isGap_nil (.inl rfl) hlayout, rfl⟩
  | case3 line c rest hfeed hblank ih =>
      -- After a blank any token may follow, so what stands before it no longer counts.
      obtain ⟨ts, hlayout, rfl⟩ := ih h (Token.endsBefore_newline rest)
      exact ⟨ts, hlayout.blank hblank hfeed before, rfl⟩
  | case4 line rest hfeed hblank ih =>
      obtain ⟨ts, hlayout, rfl⟩ := ih h (Token.endsBefore_newline _)
      have hbody : '\n' ∉ rest.takeWhile (· != '\n') := by
        intro hmem
        have hne := List.all_eq_true.1 List.all_takeWhile _ hmem
        exact absurd hne (by decide)
      have hrest : ∀ c ∈ (rest.dropWhile (· != '\n')).head?, c = '\n' := by
        intro c hc
        have hne := of_mem_head?_dropWhile hc
        rwa [bne_eq_false_iff_eq] at hne
      have hcomment := hlayout.comment hbody hrest before
      rw [List.takeWhile_append_dropWhile] at hcomment
      exact ⟨ts, hcomment, rfl⟩
  | case5 line c rest hfeed hblank hhash hdigit digits n hn =>
      rename_i ih
      obtain ⟨vs, hvs, rfl⟩ := (Outcome.map_eq_ok_iff _ _ _).1 h
      have hends : (Token.int n).EndsBefore (rest.dropWhile Char.isDigit) :=
        fun d hd => of_mem_head?_dropWhile hd
      have hdigits : Decimal.Digits (c :: rest.takeWhile Char.isDigit) :=
        ⟨List.cons_ne_nil _ _,
          List.forall_mem_cons.2 ⟨hdigit, List.all_eq_true.1 List.all_takeWhile⟩⟩
      have hsplit : c :: rest.takeWhile Char.isDigit ++ rest.dropWhile Char.isDigit = c :: rest :=
        congrArg (c :: ·) List.takeWhile_append_dropWhile
      obtain ⟨ts, hlayout, rfl⟩ := ih hvs hends
      rw [← hsplit] at hbefore ⊢
      exact ⟨.int n :: ts, hlayout.spelled (Token.spelled_int hdigits hn) hbefore, rfl⟩
  | case6 => cases h
  | case7 line c rest hfeed hblank hhash hdigit hstart word =>
      rename_i ih
      obtain ⟨vs, hvs, rfl⟩ := (Outcome.map_eq_ok_iff _ _ _).1 h
      have htext : IsWordText (c :: rest.takeWhile isWordPart) :=
        ⟨c, _, rfl, hstart, List.all_eq_true.1 List.all_takeWhile⟩
      have hends : ∀ word, (wordToken word).EndsBefore (rest.dropWhile isWordPart) := by
        intro word d hd
        rw [Token.goesOn, of_mem_head?_dropWhile hd, (Token.isWord_wordToken word).2,
          Bool.and_false, Bool.false_and, Bool.or_false]
      have hsplit : c :: rest.takeWhile isWordPart ++ rest.dropWhile isWordPart = c :: rest :=
        congrArg (c :: ·) List.takeWhile_append_dropWhile
      have hspelled := Token.spelled_wordToken htext
      obtain ⟨ts, hlayout, rfl⟩ := ih hvs (hends _)
      rw [← hsplit] at hbefore ⊢
      refine ⟨_ :: ts, hlayout.spelled hspelled hbefore, ?_⟩
      rw [List.cons_append, placed, if_neg hspelled.ne_newline]
  | case8 line c rest _ _ _ _ _ t ht ih =>
      obtain ⟨vs, hvs, rfl⟩ := (Outcome.map_eq_ok_iff _ _ _).1 h
      obtain ⟨hword, hnumber⟩ := Token.isWord_symbol ht
      have hends : t.EndsBefore rest := by
        intro d _
        rw [Token.goesOn, hword, hnumber]
        rfl
      have hspelled : t.Spelled [c] := .char (Token.char?_eq_some_iff.2 ht)
      obtain ⟨ts, hlayout, rfl⟩ := ih hvs hends
      refine ⟨t :: ts, hlayout.spelled hspelled hbefore, ?_⟩
      rw [List.cons_append, placed, if_neg hspelled.ne_newline]
  | case9 => cases h

theorem lexemesFrom_eq_ok_iff {line : Nat} {text : List Char} {us : List Lexeme} :
    lexemesFrom line text = .ok us ↔
      ∃ ts, Layout .newline ts text ∧ us = placed line (ts ++ [.eof]) := by
  refine ⟨fun h => layout_of_lexemesFrom h (Token.endsBefore_newline text), ?_⟩
  rintro ⟨ts, hlayout, rfl⟩
  exact hlayout.lexemesFrom_eq line

/-! ## Lines -/

theorem map_token_placed (line : Nat) (ts : List Token) :
    (placed line ts).map Lexeme.token = ts := by
  induction ts generalizing line with
  | nil => rfl
  | cons t ts ih => rw [placed, List.map_cons, ih]

theorem token_mem_of_mem_placed {line : Nat} {ts : List Token} {t : Lexeme}
    (h : t ∈ placed line ts) : t.token ∈ ts := by
  rw [← map_token_placed line ts]
  exact List.mem_map_of_mem h

theorem placed_append (line : Nat) (ts us : List Token) :
    placed line (ts ++ us) = placed line ts ++ placed (line + ts.count .newline) us := by
  induction ts generalizing line with
  | nil => rfl
  | cons t ts ih =>
      rw [List.cons_append, placed, placed, ih, List.cons_append, List.count_cons]
      by_cases ht : t = .newline
      · rw [if_pos ht, if_pos (beq_iff_eq.2 ht), Nat.add_assoc, Nat.add_comm 1]
      · rw [if_neg ht, if_neg (mt beq_iff_eq.1 ht), Nat.add_zero]

theorem line_of_placed {line : Nat} {ts : List Token} {before after : List Lexeme} {u : Lexeme}
    (h : placed line ts = before ++ u :: after) :
    u.line = line + (before.map Lexeme.token).count .newline := by
  induction ts generalizing line before with
  | nil => exact absurd h.symm (List.append_ne_nil_of_right_ne_nil _ (List.cons_ne_nil _ _))
  | cons t ts ih =>
      rw [placed] at h
      cases before with
      | nil =>
          obtain ⟨rfl, -⟩ := List.cons.inj h
          rfl
      | cons b before =>
          obtain ⟨rfl, hrest⟩ := List.cons.inj h
          rw [ih hrest, List.map_cons, List.count_cons]
          by_cases ht : t = .newline
          · rw [if_pos ht, if_pos (beq_iff_eq.2 ht)]
            omega
          · rw [if_neg ht, if_neg (mt beq_iff_eq.1 ht)]
            rfl

/-- Tokens that stand on the lines that the line ends before them lead to. -/
theorem eq_placed_of_lines {line : Nat} {us : List Lexeme}
    (h : ∀ before u after, us = before ++ u :: after →
      u.line = line + (before.map Lexeme.token).count .newline) :
    us = placed line (us.map Lexeme.token) := by
  induction us generalizing line with
  | nil => rfl
  | cons u us ih =>
      have hline : u.line = line := h [] u us rfl
      rw [List.map_cons, placed, ← hline]
      congr 1
      refine ih fun before v after hus => ?_
      have hv := h (u :: before) v after (congrArg (u :: ·) hus)
      rw [hv, List.map_cons, List.count_cons]
      by_cases hu : u.token = .newline
      · rw [if_pos hu, if_pos (beq_iff_eq.2 hu)]
        omega
      · rw [if_neg hu, if_neg (mt beq_iff_eq.1 hu)]
        omega

/-- A source has the tokens that it is a layout of, with `eof` after them, and no others. Each is
    on the line that follows from the line ends before it. -/
theorem lexemes_eq_ok_iff_layout (source : List Char) (us : List Lexeme) :
    lexemes source = .ok us ↔
      (∃ ts, us.map Lexeme.token = ts ++ [.eof] ∧ Layout .newline ts source) ∧
        ∀ before u after, us = before ++ u :: after →
          u.line = 1 + (before.map Lexeme.token).count .newline := by
  rw [lexemes, lexemesFrom_eq_ok_iff]
  constructor
  · rintro ⟨ts, hlayout, rfl⟩
    exact ⟨⟨ts, map_token_placed 1 _, hlayout⟩, fun before u after h => line_of_placed h⟩
  · rintro ⟨⟨ts, htokens, hlayout⟩, hlines⟩
    refine ⟨ts, hlayout, ?_⟩
    rw [← htokens]
    exact eq_placed_of_lines hlines

end Gridscript.Script
