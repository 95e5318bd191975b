/-
  The JSON readers read what is written.

  Every written text is cut into tokens, whatever follows that cannot go on a number (`Lexes`), and
  from these tokens the phrase is read, whatever tokens follow (`Parses`). Both are shown at once by
  induction on how the text is written (`Written.reads`). A string keeps its pieces as they are
  written; it has a text exactly if the pieces spell one (`decode?_eq_some_iff_spells`).
-/
import Gridscript.Proofs.Json.Grammar
import Gridscript.Proofs.Text.Utf8

namespace Gridscript.Json

/-! ## Strings -/

theorem hexDigit?_of_isHex {digit : Char} {n : Nat} (h : IsHex digit n) :
    hexDigit? digit = some n := by
  have hall : ∀ i : Fin 16, hexDigit? i.val.digitChar = some i.val ∧
      hexDigit? i.val.digitChar.toUpper = some i.val := by decide
  obtain ⟨hn, rfl | rfl⟩ := h
  · exact (hall ⟨n, hn⟩).1
  · exact (hall ⟨n, hn⟩).2

theorem escaped?_of_mem {letter c : Char} (h : (letter, c) ∈ shorthands) :
    letter ≠ 'u' ∧ escaped? letter = some c := by
  have hall : ∀ s ∈ shorthands, s.1 ≠ 'u' ∧ escaped? s.1 = some s.2 := by decide
  exact hall (letter, c) h

theorem unit?_of_isHex {a b c d : Char} {i j k l : Nat} (ha : IsHex a i) (hb : IsHex b j)
    (hc : IsHex c k) (hd : IsHex d l) :
    unit? a b c d = some (((i * 16 + j) * 16 + k) * 16 + l) := by
  simp only [unit?, hexDigit?_of_isHex ha, hexDigit?_of_isHex hb, hexDigit?_of_isHex hc,
    hexDigit?_of_isHex hd]
  rfl

theorem pieces?_cons {p : Piece} {ps : List Piece} {t text rest : List Char}
    (hp : PieceText p t) {h : rest.length < text.length}
    (hps : pieces? text = some (ps, ⟨rest, h⟩)) :
    ∃ h, pieces? (t ++ text) = some (p :: ps, ⟨rest, h⟩) := by
  cases hp with
  | @plain c hquote hslash hcontrol =>
      rw [List.singleton_append, pieces?]
      · rw [if_neg, hps]
        · exact ⟨_, rfl⟩
        · simpa [hslash] using hcontrol
      all_goals grind
  | short hshort =>
      obtain ⟨hu, hc⟩ := escaped?_of_mem hshort
      rw [List.cons_append, List.singleton_append, pieces?]
      · rw [hc, hps]
        exact ⟨_, rfl⟩
      · grind
  | unit ha hb hc hd =>
      show ∃ h, pieces? ('\\' :: 'u' :: _ :: _ :: _ :: _ :: text) = _
      rw [pieces?, unit?_of_isHex ha hb hc hd, hps]
      exact ⟨_, rfl⟩

theorem BodyText.pieces? {ps : List Piece} {body : List Char} (h : BodyText ps body)
    (rest : List Char) : ∃ h, Json.pieces? (body ++ '"' :: rest) = some (ps, ⟨rest, h⟩) := by
  induction h with
  | nil =>
      rw [List.nil_append, Json.pieces?]
      exact ⟨_, rfl⟩
  | cons hp _ ih =>
      obtain ⟨_, hps⟩ := ih
      rw [List.append_assoc]
      exact pieces?_cons hp hps

theorem decode?_unit {code : Nat} (hhigh : isHigh code = false) (hlow : isLow code = false)
    (ps : List Piece) :
    decode? (.unit code :: ps) = (decode? ps).map (Char.ofNat code :: ·) := by
  cases ps with
  | nil => simp [decode?, hhigh, hlow]
  | cons p ps =>
      cases p with
      | plain c => simp [decode?, hhigh, hlow]
      | unit lo => rw [decode?]; simp [hhigh, hlow]

theorem decode?_pair {hi lo : Nat} (hhigh : isHigh hi) (hlow : isLow lo) (ps : List Piece) :
    decode? (.unit hi :: .unit lo :: ps) =
      (decode? ps).map (Char.ofNat (0x10000 + (hi - 0xD800) * 0x400 + (lo - 0xDC00)) :: ·) := by
  rw [decode?]
  simp [hhigh, hlow]

theorem Spells.decode? {ps : List Piece} {text : List Char} (h : Spells ps text) :
    Json.decode? ps = some text := by
  induction h with
  | nil => rfl
  | plain c _ ih => rw [Json.decode?, ih]; rfl
  | @unit c _ _ hc _ ih =>
      have hvalid : c.toNat < 0xD800 ∨ 0xDFFF < c.toNat ∧ c.toNat < 0x110000 := c.valid
      have hhigh : isHigh c.toNat = false := by
        simp only [isHigh, Bool.and_eq_false_iff, decide_eq_false_iff_not]
        omega
      have hlow : isLow c.toNat = false := by
        simp only [isLow, Bool.and_eq_false_iff, decide_eq_false_iff_not]
        omega
      rw [decode?_unit hhigh hlow, ih, Char.ofNat_toNat]
      rfl
  | @pair c _ _ hc _ ih =>
      have hvalid : c.toNat < 0xD800 ∨ 0xDFFF < c.toNat ∧ c.toNat < 0x110000 := c.valid
      have hcode : 0x10000 + (0xD800 + (c.toNat - 0x10000) / 0x400 - 0xD800) * 0x400 +
          (0xDC00 + (c.toNat - 0x10000) % 0x400 - 0xDC00) = c.toNat := by omega
      rw [decode?_pair, ih, hcode, Char.ofNat_toNat]
      · rfl
      · simp only [isHigh, Bool.and_eq_true, decide_eq_true_eq]
        omega
      · simp only [isLow, Bool.and_eq_true, decide_eq_true_eq]
        omega

/-- Every unit is one of 16 bits. -/
def Units (ps : List Piece) : Prop := ∀ code, .unit code ∈ ps → code < 0x10000

theorem Units.tail {p : Piece} {ps : List Piece} (h : Units (p :: ps)) : Units ps :=
  fun code hcode => h code (List.mem_cons_of_mem _ hcode)

theorem Spells.ofUnit {code : Nat} {ps : List Piece} {text : List Char} (hcode : code < 0x10000)
    (hhalf : ¬ (isHigh code || isLow code) = true) (h : Spells ps text) :
    Spells (.unit code :: ps) (Char.ofNat code :: text) := by
  simp only [isHigh, isLow, Bool.or_eq_true, Bool.and_eq_true, decide_eq_true_eq] at hhalf
  have hvalid : code.isValidChar := by
    show code < 0xD800 ∨ 0xDFFF < code ∧ code < 0x110000
    omega
  have hunit := Spells.unit (c := Char.ofNat code) (by rwa [Utf8.toNat_ofNat hvalid]) h
  rwa [Utf8.toNat_ofNat hvalid] at hunit

theorem Spells.ofPair {hi lo : Nat} {ps : List Piece} {text : List Char}
    (hpair : (isHigh hi && isLow lo) = true) (h : Spells ps text) :
    Spells (.unit hi :: .unit lo :: ps)
      (Char.ofNat (0x10000 + (hi - 0xD800) * 0x400 + (lo - 0xDC00)) :: text) := by
  simp only [isHigh, isLow, Bool.and_eq_true, decide_eq_true_eq] at hpair
  have hvalid : (0x10000 + (hi - 0xD800) * 0x400 + (lo - 0xDC00)).isValidChar := by
    show _ < 0xD800 ∨ 0xDFFF < _ ∧ _ < 0x110000
    omega
  have hpair := Spells.pair (c := Char.ofNat (0x10000 + (hi - 0xD800) * 0x400 + (lo - 0xDC00)))
    (by rw [Utf8.toNat_ofNat hvalid]; omega) h
  rw [Utf8.toNat_ofNat hvalid] at hpair
  have hhi : 0xD800 + (0x10000 + (hi - 0xD800) * 0x400 + (lo - 0xDC00) - 0x10000) / 0x400 = hi := by
    omega
  have hlo : 0xDC00 + (0x10000 + (hi - 0xD800) * 0x400 + (lo - 0xDC00) - 0x10000) % 0x400 = lo := by
    omega
  rwa [hhi, hlo] at hpair

theorem spells_of_decode? {ps : List Piece} {text : List Char} (hps : Units ps)
    (h : decode? ps = some text) : Spells ps text := by
  fun_induction decode? ps generalizing text with
  | case1 =>
      cases h
      exact .nil
  | case2 c rest ih =>
      obtain ⟨text, htext, rfl⟩ := Option.map_eq_some_iff.1 h
      exact .plain c (ih hps.tail htext)
  | case3 hi lo rest hpair ih =>
      obtain ⟨text, htext, rfl⟩ := Option.map_eq_some_iff.1 h
      exact .ofPair hpair (ih hps.tail.tail htext)
  | case4 => cases h
  | case5 hi lo rest _ hhalf ih =>
      obtain ⟨text, htext, rfl⟩ := Option.map_eq_some_iff.1 h
      exact .ofUnit (hps hi List.mem_cons_self) hhalf (ih hps.tail htext)
  | case6 => cases h
  | case7 code rest _ hhalf ih =>
      obtain ⟨text, htext, rfl⟩ := Option.map_eq_some_iff.1 h
      exact .ofUnit (hps code List.mem_cons_self) hhalf (ih hps.tail htext)

theorem decode?_eq_some_iff_spells {ps : List Piece} (hps : Units ps) (text : List Char) :
    decode? ps = some text ↔ Spells ps text :=
  ⟨spells_of_decode? hps, Spells.decode?⟩

theorem BodyText.units {ps : List Piece} {body : List Char} (h : BodyText ps body) : Units ps := by
  induction h with
  | nil => exact fun code hcode => absurd hcode List.not_mem_nil
  | cons hp _ ih =>
      intro code hcode
      rcases List.mem_cons.1 hcode with rfl | hcode
      · cases hp with
        | unit ha hb hc hd =>
            have hi := ha.1
            have hj := hb.1
            have hk := hc.1
            have hl := hd.1
            omega
      · exact ih code hcode

/-- The strings that a phrase names its members by, or is. -/
def Phrase.names : Phrase → List (List Piece)
  | .value (.string ps) => [ps]
  | .value (.object ms) => ms.map Prod.fst
  | .members ms => ms.map Prod.fst
  | _ => []

theorem Written.units {phrase : Phrase} {text : List Char} (h : Written phrase text) :
    ∀ ps ∈ phrase.names, Units ps := by
  induction h with
  | before _ _ ih => exact ih
  | after _ _ ih => exact ih
  | string hbody => exact List.forall_mem_singleton.2 hbody.units
  | object _ ih => exact ih
  | member _ _ hname _ => exact hname
  | members _ _ _ hname _ hrest =>
      exact List.forall_mem_cons.2 ⟨List.forall_mem_singleton.1 hname, hrest⟩
  | _ => exact fun ps hps => absurd hps List.not_mem_nil

/-! ## Numbers -/

/-- A text that does not go on a number. -/
def Ends (rest : List Char) : Prop :=
  ∀ c ∈ rest.head?, c.isDigit = false ∧ c ≠ '.' ∧ c ≠ 'e' ∧ c ≠ 'E'

theorem Ends.append {text rest : List Char} (h : Ends text) (hrest : Ends rest) :
    Ends (text ++ rest) := by
  cases text with
  | nil => exact hrest
  | cons c text => exact h

theorem IsDigits.exists_cons {digits : List Char} (h : IsDigits digits) :
    ∃ d ds, digits = d :: ds ∧ d.isDigit := by
  obtain ⟨d, ds, rfl⟩ := List.exists_cons_of_ne_nil h.1
  exact ⟨d, ds, rfl, List.all_eq_true.1 h.2 d List.mem_cons_self⟩

theorem IsInteger.exists_cons {integer : List Char} (h : IsInteger integer) :
    ∃ d ds, integer = d :: ds ∧ d.isDigit := by
  obtain rfl | ⟨hdigits, -⟩ := h
  · exact ⟨'0', [], rfl, rfl⟩
  · exact hdigits.exists_cons

theorem afterDigits?_append {digits rest : List Char} (h : IsDigits digits)
    (hrest : ∀ c ∈ rest.head?, c.isDigit = false) :
    ∃ h, afterDigits? (digits ++ rest) = some ⟨rest, h⟩ := by
  obtain ⟨hne, hdigits⟩ := h
  cases digits with
  | nil => exact absurd rfl hne
  | cons d more =>
      rw [List.all_cons, Bool.and_eq_true] at hdigits
      obtain ⟨hd, hmore⟩ := hdigits
      have hdrop : (more ++ rest).dropWhile Char.isDigit = rest := by
        rw [List.dropWhile_append_of_pos (List.all_eq_true.1 hmore)]
        cases rest with
        | nil => rfl
        | cons c rest => rw [List.dropWhile_cons_of_neg (by simpa using hrest c rfl)]
      rw [List.cons_append, afterDigits?, if_pos hd]
      refine ⟨?_, congrArg some (Subtype.ext hdrop)⟩
      rw [List.length_cons, List.length_append]
      omega

theorem afterInteger?_append {integer rest : List Char} (h : IsInteger integer)
    (hrest : ∀ c ∈ rest.head?, c.isDigit = false) :
    ∃ h, afterInteger? (integer ++ rest) = some ⟨rest, h⟩ := by
  obtain rfl | ⟨hdigits, hzero⟩ := h
  · cases rest with
    | nil => exact ⟨_, rfl⟩
    | cons c rest =>
        show ∃ h, afterInteger? ('0' :: c :: rest) = _
        rw [afterInteger?, if_neg (by simpa using hrest c rfl)]
        exact ⟨_, rfl⟩
  · rw [afterInteger?]
    · exact afterDigits?_append hdigits hrest
    · intro c more heq
      obtain ⟨d, ds, rfl, -⟩ := hdigits.exists_cons
      exact hzero (congrArg some (List.cons.inj heq).1)

theorem IsFraction.head_append {fraction rest : List Char} (h : IsFraction fraction)
    (hrest : ∀ c ∈ rest.head?, c.isDigit = false ∧ c ≠ '.') :
    ∀ c ∈ (fraction ++ rest).head?, c.isDigit = false := by
  obtain rfl | ⟨digits, -, rfl⟩ := h
  · exact fun c hc => (hrest c hc).1
  · rintro c ⟨⟩
    rfl

theorem afterFraction?_append {fraction rest : List Char} (h : IsFraction fraction)
    (hrest : ∀ c ∈ rest.head?, c.isDigit = false ∧ c ≠ '.') :
    ∃ h, afterFraction? (fraction ++ rest) = some ⟨rest, h⟩ := by
  obtain rfl | ⟨digits, hdigits, rfl⟩ := h
  · rw [List.nil_append, afterFraction?]
    · exact ⟨_, rfl⟩
    · rintro more rfl
      exact (hrest '.' rfl).2 rfl
  · obtain ⟨_, hafter⟩ := afterDigits?_append hdigits fun c hc => (hrest c hc).1
    rw [List.cons_append, afterFraction?, hafter]
    exact ⟨_, rfl⟩

theorem IsExponent.head_append {exponent rest : List Char} (h : IsExponent exponent)
    (hrest : Ends rest) : ∀ c ∈ (exponent ++ rest).head?, c.isDigit = false ∧ c ≠ '.' := by
  obtain rfl | ⟨letter, sign, digits, rfl | rfl, -, -, rfl⟩ := h
  · exact fun c hc => ⟨(hrest c hc).1, (hrest c hc).2.1⟩
  all_goals
    rintro c ⟨⟩
    decide

theorem dropSign_append {sign digits : List Char} (hsign : sign ∈ [[], ['+'], ['-']])
    (hdigits : IsDigits digits) (rest : List Char) :
    (dropSign (sign ++ digits ++ rest)).val = digits ++ rest := by
  obtain ⟨d, ds, rfl, hd⟩ := hdigits.exists_cons
  simp only [List.mem_cons, List.not_mem_nil, or_false] at hsign
  obtain rfl | rfl | rfl := hsign
  · -- a digit is no sign
    rw [List.nil_append, List.cons_append, dropSign]
    all_goals
      intro more heq
      rw [(List.cons.inj heq).1] at hd
      exact absurd hd (by decide)
  · rfl
  · rfl

theorem afterExponent?_append {exponent rest : List Char} (h : IsExponent exponent)
    (hrest : Ends rest) : ∃ h, afterExponent? (exponent ++ rest) = some ⟨rest, h⟩ := by
  obtain rfl | ⟨letter, sign, digits, hletter, hsign, hdigits, rfl⟩ := h
  · cases rest with
    | nil => exact ⟨_, rfl⟩
    | cons c rest =>
        obtain ⟨-, -, he, hE⟩ := hrest c rfl
        rw [List.nil_append, afterExponent?, if_neg (by simp [he, hE])]
        exact ⟨_, rfl⟩
  · obtain ⟨_, hafter⟩ :
        ∃ h, afterDigits? (dropSign (sign ++ digits ++ rest)).val = some ⟨rest, h⟩ := by
      rw [dropSign_append hsign hdigits]
      exact afterDigits?_append hdigits fun c hc => (hrest c hc).1
    rw [List.cons_append, afterExponent?, if_pos (by simpa using hletter), hafter]
    exact ⟨_, rfl⟩

theorem dropMinus_append {sign integer : List Char} (hsign : sign ∈ [[], ['-']])
    (hinteger : IsInteger integer) (rest : List Char) :
    (dropMinus (sign ++ (integer ++ rest))).val = integer ++ rest := by
  obtain ⟨d, ds, rfl, hd⟩ := hinteger.exists_cons
  simp only [List.mem_cons, List.not_mem_nil, or_false] at hsign
  obtain rfl | rfl := hsign
  · rw [List.nil_append, List.cons_append, dropMinus]
    intro more heq
    rw [(List.cons.inj heq).1] at hd
    exact absurd hd (by decide)
  · rfl

theorem afterNumber?_append {text rest : List Char} (h : IsNumber text) (hrest : Ends rest) :
    ∃ h, afterNumber? (text ++ rest) = some ⟨rest, h⟩ := by
  obtain ⟨sign, integer, fraction, exponent, hsign, hinteger, hfraction, hexponent, rfl⟩ := h
  have hhead := hexponent.head_append hrest
  rw [show sign ++ (integer ++ (fraction ++ exponent)) ++ rest =
    sign ++ (integer ++ (fraction ++ (exponent ++ rest))) by simp only [List.append_assoc]]
  obtain ⟨_, hafter₁⟩ : ∃ h, afterInteger?
      (dropMinus (sign ++ (integer ++ (fraction ++ (exponent ++ rest))))).val =
        some ⟨fraction ++ (exponent ++ rest), h⟩ := by
    rw [dropMinus_append hsign hinteger]
    exact afterInteger?_append hinteger (hfraction.head_append hhead)
  obtain ⟨_, hafter₂⟩ := afterFraction?_append hfraction hhead
  obtain ⟨_, hafter₃⟩ := afterExponent?_append hexponent hrest
  rw [afterNumber?, hafter₁]
  dsimp only
  rw [hafter₂]
  dsimp only
  rw [hafter₃]
  exact ⟨_, rfl⟩

/-- A number starts with a minus sign or a digit. -/
theorem IsNumber.exists_cons {text : List Char} (h : IsNumber text) :
    ∃ c more, text = c :: more ∧ (c = '-' ∨ c.isDigit) := by
  obtain ⟨sign, integer, fraction, exponent, hsign, hinteger, -, -, rfl⟩ := h
  obtain ⟨d, ds, rfl, hd⟩ := hinteger.exists_cons
  simp only [List.mem_cons, List.not_mem_nil, or_false] at hsign
  obtain rfl | rfl := hsign
  · exact ⟨d, _, rfl, .inr hd⟩
  · exact ⟨'-', _, rfl, .inl rfl⟩

/-! ## Tokens -/

/-- The characters that are tokens by themselves. -/
def symbols : List (Char × Token) :=
  [('\x7b', .lbrace), ('\x7d', .rbrace), ('[', .lbracket), (']', .rbracket), (',', .comma),
    (':', .colon)]

theorem lex?_symbol {c : Char} {token : Token} (h : (c, token) ∈ symbols) (rest : List Char) :
    lex? (c :: rest) = (lex? rest).map (token :: ·) := by
  simp only [symbols, List.mem_cons, List.not_mem_nil, or_false, Prod.mk.injEq] at h
  obtain ⟨rfl, rfl⟩ | ⟨rfl, rfl⟩ | ⟨rfl, rfl⟩ | ⟨rfl, rfl⟩ | ⟨rfl, rfl⟩ | ⟨rfl, rfl⟩ := h
  all_goals rw [lex?]

theorem lex?_blank {c : Char} (h : isBlank c) (rest : List Char) :
    lex? (c :: rest) = lex? rest := by
  simp only [isBlank, Bool.or_eq_true, beq_iff_eq] at h
  obtain ((rfl | rfl) | rfl) | rfl := h
  all_goals
    rw [lex?]
    · rfl
    all_goals simp

theorem lex?_number {text rest : List Char} (h : IsNumber text) (hrest : Ends rest) :
    lex? (text ++ rest) = (lex? rest).map (.number text :: ·) := by
  obtain ⟨_, hafter⟩ := afterNumber?_append h hrest
  obtain ⟨c, more, rfl, hc⟩ := h.exists_cons
  -- no token but a number, and no blank, starts like this
  have hne {d : Char} (hd : ¬(d = '-' ∨ d.isDigit)) : c ≠ d := by
    rintro rfl
    exact hd hc
  have hblank : isBlank c = false := by
    simp [isBlank, hne (d := ' ') (by decide), hne (d := '\t') (by decide),
      hne (d := '\n') (by decide), hne (d := '\r') (by decide)]
  have hafter : afterNumber? (c :: (more ++ rest)) = some ⟨rest, _⟩ := hafter
  have htake : (c :: (more ++ rest)).take ((more ++ rest).length + 1 - rest.length) =
      c :: more := by
    rw [← List.cons_append, List.take_left']
    rw [List.length_append, List.length_cons]
    omega
  rw [List.cons_append, lex?, if_neg (by simp [hblank]), hafter]
  · dsimp only
    rw [htake]
  all_goals intros
  all_goals exact absurd ‹c = _› (hne (by decide))

/-! ## Tokens of written texts -/

/-- The tokens of the text come first, whatever follows that does not go on a number. -/
def Lexes (text : List Char) (ts : List Token) : Prop :=
  ∀ rest, Ends rest → lex? (text ++ rest) = (lex? rest).map (ts ++ ·)

theorem ends_nil : Ends [] := by
  rintro c ⟨⟩

theorem ends_symbol {c : Char} {token : Token} (h : (c, token) ∈ symbols) (rest : List Char) :
    Ends (c :: rest) := by
  have hall : ∀ s ∈ symbols, s.1.isDigit = false ∧ s.1 ≠ '.' ∧ s.1 ≠ 'e' ∧ s.1 ≠ 'E' := by decide
  rintro d ⟨⟩
  exact hall (c, token) h

theorem ends_blank {c : Char} (h : isBlank c) (rest : List Char) : Ends (c :: rest) := by
  simp only [isBlank, Bool.or_eq_true, beq_iff_eq] at h
  rintro d ⟨⟩
  obtain ((rfl | rfl) | rfl) | rfl := h
  all_goals decide

theorem lexes_nil : Lexes [] [] := by
  intro rest _
  cases h : lex? rest with
  | none => rw [List.nil_append, h]; rfl
  | some ts => rw [List.nil_append, h]; rfl

theorem Lexes.symbol {c : Char} {text : List Char} {ts : List Token} (token : Token)
    (hc : (c, token) ∈ symbols) (h : Lexes text ts) : Lexes (c :: text) (token :: ts) := by
  intro rest hrest
  rw [List.cons_append, lex?_symbol hc, h rest hrest, Option.map_map]
  rfl

theorem Lexes.blank {c : Char} {text : List Char} {ts : List Token} (hc : isBlank c)
    (h : Lexes text ts) : Lexes (c :: text) ts := by
  intro rest hrest
  rw [List.cons_append, lex?_blank hc, h rest hrest]

theorem Lexes.gap {gap text : List Char} {ts : List Token} (hgap : gap.all isBlank)
    (h : Lexes text ts) : Lexes (gap ++ text) ts := by
  induction gap with
  | nil => exact h
  | cons c gap ih =>
      rw [List.all_cons, Bool.and_eq_true] at hgap
      exact (ih hgap.2).blank hgap.1

theorem Lexes.append {text more : List Char} {ts us : List Token} (h : Lexes text ts)
    (hmore : Lexes more us) (hends : Ends more) : Lexes (text ++ more) (ts ++ us) := by
  intro rest hrest
  rw [List.append_assoc, h _ (hends.append hrest), hmore rest hrest, Option.map_map]
  congr 1
  funext vs
  exact (List.append_assoc ts us vs).symm

/-- A symbol between two texts. -/
theorem Lexes.join {c : Char} {text more : List Char} {ts us : List Token} (token : Token)
    (hc : (c, token) ∈ symbols) (h : Lexes text ts) (hmore : Lexes more us) :
    Lexes (text ++ c :: more) (ts ++ token :: us) :=
  h.append (.symbol token hc hmore) (ends_symbol hc more)

theorem lexes_string {ps : List Piece} {body : List Char} (h : BodyText ps body) :
    Lexes ('"' :: (body ++ ['"'])) [.string ps] := by
  intro rest _
  obtain ⟨_, hps⟩ := h.pieces? rest
  have happend : body ++ ['"'] ++ rest = body ++ '"' :: rest := by simp
  rw [List.cons_append, happend, lex?, hps]
  rfl

/-! ## Values of tokens -/

/-- The phrase is read from the tokens, whatever tokens follow it, or follow what closes it. -/
def Parses : Phrase → List Token → Prop
  | .value v, ts => ∀ rest, ∃ h, value? (ts ++ rest) = some (v, ⟨rest, h⟩)
  | .items vs, ts => ∀ rest, ∃ h, items? (ts ++ .rbracket :: rest) = some (vs, ⟨rest, h⟩)
  | .members ms, ts => ∀ rest, ∃ h, members? (ts ++ .rbrace :: rest) = some (ms, ⟨rest, h⟩)

/-- Only the token of a string is read as that string. -/
theorem eq_of_value?_string {ts rest : List Token} {ps : List Piece}
    {h : rest.length < ts.length} (hv : value? ts = some (.string ps, ⟨rest, h⟩)) :
    ts = .string ps :: rest := by
  unfold value? at hv
  split at hv
  case h_4 => cases hv; rfl
  case h_6 => split at hv <;> cases hv
  case h_8 => split at hv <;> cases hv
  all_goals cases hv

theorem value?_array {ts rest : List Token} {vs : List Json} {h : rest.length < ts.length}
    (hitems : items? ts = some (vs, ⟨rest, h⟩)) :
    ∃ h, value? (.lbracket :: ts) = some (.array vs, ⟨rest, h⟩) := by
  rw [value?]
  · rw [hitems]
    exact ⟨_, rfl⟩
  · rintro more rfl
    have hnone : value? (.rbracket :: more) = none := by
      rw [value?]
      all_goals simp
    rw [items?, hnone] at hitems
    cases hitems

theorem value?_object {ts rest : List Token} {ms : List (List Piece × Json)}
    {h : rest.length < ts.length} (hmembers : members? ts = some (ms, ⟨rest, h⟩)) :
    ∃ h, value? (.lbrace :: ts) = some (.object ms, ⟨rest, h⟩) := by
  rw [value?]
  · rw [hmembers]
    exact ⟨_, rfl⟩
  · rintro more rfl
    have hnone : members? (.rbrace :: more) = none := by
      rw [members?]
      simp
    rw [hnone] at hmembers
    cases hmembers

theorem items?_last {ts rest : List Token} {v : Json}
    {h : (Token.rbracket :: rest).length < ts.length}
    (hv : value? ts = some (v, ⟨.rbracket :: rest, h⟩)) :
    ∃ h, items? ts = some ([v], ⟨rest, h⟩) := by
  rw [items?, hv]
  exact ⟨_, rfl⟩

theorem items?_comma {ts more rest : List Token} {v : Json} {vs : List Json}
    {h : (Token.comma :: more).length < ts.length} {h' : rest.length < more.length}
    (hv : value? ts = some (v, ⟨.comma :: more, h⟩)) (hvs : items? more = some (vs, ⟨rest, h'⟩)) :
    ∃ h, items? ts = some (v :: vs, ⟨rest, h⟩) := by
  rw [items?, hv]
  dsimp only
  rw [hvs]
  exact ⟨_, rfl⟩

theorem members?_last {ts rest : List Token} {name : List Piece} {v : Json}
    {h : (Token.rbrace :: rest).length < ts.length}
    (hv : value? ts = some (v, ⟨.rbrace :: rest, h⟩)) :
    ∃ h, members? (.string name :: .colon :: ts) = some ([(name, v)], ⟨rest, h⟩) := by
  rw [members?, hv]
  exact ⟨_, rfl⟩

theorem members?_comma {ts more rest : List Token} {name : List Piece} {v : Json}
    {ms : List (List Piece × Json)} {h : (Token.comma :: more).length < ts.length}
    {h' : rest.length < more.length} (hv : value? ts = some (v, ⟨.comma :: more, h⟩))
    (hms : members? more = some (ms, ⟨rest, h'⟩)) :
    ∃ h, members? (.string name :: .colon :: ts) = some ((name, v) :: ms, ⟨rest, h⟩) := by
  rw [members?, hv]
  dsimp only
  rw [hms]
  exact ⟨_, rfl⟩

/-! ## Reading -/

/-- The text is cut into tokens that the phrase is read from. -/
def Reads (phrase : Phrase) (text : List Char) : Prop := ∃ ts, Lexes text ts ∧ Parses phrase ts

theorem reads_token {v : Json} {text : List Char} (token : Token) (h : Lexes text [token])
    (hv : ∀ rest, value? (token :: rest) = some (v, ⟨rest, Nat.lt_succ_self _⟩)) :
    Reads (.value v) text :=
  ⟨[token], h, fun rest => ⟨_, hv rest⟩⟩

theorem Parses.all {v : Json} {ts : List Token} (h : Parses (.value v) ts) :
    ∃ h, value? ts = some (v, ⟨[], h⟩) := by
  have hv := h []
  rwa [List.append_nil] at hv

theorem Reads.name {name : List Piece} {text : List Char}
    (h : Reads (.value (.string name)) text) : Lexes text [.string name] := by
  obtain ⟨ts, hlex, hparse⟩ := h
  obtain ⟨_, hv⟩ := hparse.all
  cases eq_of_value?_string hv
  exact hlex

theorem Written.reads {phrase : Phrase} {text : List Char} (h : Written phrase text) :
    Reads phrase text := by
  induction h with
  | before hc _ ih =>
      obtain ⟨ts, hlex, hparse⟩ := ih
      exact ⟨ts, hlex.blank hc, hparse⟩
  | after _ hc ih =>
      obtain ⟨ts, hlex, hparse⟩ := ih
      refine ⟨ts, ?_, hparse⟩
      rw [← List.append_nil ts]
      exact hlex.append (lexes_nil.blank hc) (ends_blank hc [])
  | null => exact reads_token .null (fun rest _ => lex?.eq_8 rest) fun rest => by rw [value?]
  | bool b =>
      refine reads_token (.bool b) (fun rest _ => ?_) fun rest => by rw [value?]
      cases b with
      | true => exact lex?.eq_9 rest
      | false => exact lex?.eq_10 rest
  | number hnumber =>
      exact reads_token (.number _) (fun rest hrest => lex?_number hnumber hrest)
        fun rest => by rw [value?]
  | string hbody => exact reads_token (.string _) (lexes_string hbody) fun rest => by rw [value?]
  | emptyArray hgap =>
      refine ⟨[.lbracket, .rbracket], .symbol _ (by decide)
        (.gap hgap (.symbol _ (by decide) lexes_nil)), fun rest => ?_⟩
      show ∃ h, value? (.lbracket :: .rbracket :: rest) = _
      rw [value?]
      exact ⟨_, rfl⟩
  | array _ ih =>
      obtain ⟨ts, hlex, hparse⟩ := ih
      refine ⟨.lbracket :: (ts ++ [.rbracket]), .symbol _ (by decide)
        (.join _ (by decide) hlex lexes_nil), fun rest => ?_⟩
      obtain ⟨_, hitems⟩ := hparse rest
      rw [List.cons_append, List.append_assoc]
      exact value?_array hitems
  | emptyObject hgap =>
      refine ⟨[.lbrace, .rbrace], .symbol _ (by decide)
        (.gap hgap (.symbol _ (by decide) lexes_nil)), fun rest => ?_⟩
      show ∃ h, value? (.lbrace :: .rbrace :: rest) = _
      rw [value?]
      exact ⟨_, rfl⟩
  | object _ ih =>
      obtain ⟨ts, hlex, hparse⟩ := ih
      refine ⟨.lbrace :: (ts ++ [.rbrace]), .symbol _ (by decide)
        (.join _ (by decide) hlex lexes_nil), fun rest => ?_⟩
      obtain ⟨_, hmembers⟩ := hparse rest
      rw [List.cons_append, List.append_assoc]
      exact value?_object hmembers
  | item _ ih =>
      obtain ⟨ts, hlex, hparse⟩ := ih
      refine ⟨ts, hlex, fun rest => ?_⟩
      obtain ⟨_, hv⟩ := hparse (.rbracket :: rest)
      exact items?_last hv
  | items _ _ ih ih' =>
      obtain ⟨ts, hlex, hparse⟩ := ih
      obtain ⟨us, hlex', hparse'⟩ := ih'
      refine ⟨ts ++ .comma :: us, .join _ (by decide) hlex hlex', fun rest => ?_⟩
      obtain ⟨_, hv⟩ := hparse (.comma :: (us ++ .rbracket :: rest))
      obtain ⟨_, hvs⟩ := hparse' rest
      rw [List.append_assoc]
      exact items?_comma hv hvs
  | @member name v left right _ _ hname ih =>
      obtain ⟨ts, hlex, hparse⟩ := ih
      refine ⟨.string name :: .colon :: ts, .join .colon (by decide) hname.name hlex,
        fun rest => ?_⟩
      obtain ⟨_, hv⟩ := hparse (.rbrace :: rest)
      exact members?_last hv
  | @members name v ms left right rest _ _ _ hname ih ih' =>
      obtain ⟨ts, hlex, hparse⟩ := ih
      obtain ⟨us, hlex', hparse'⟩ := ih'
      refine ⟨.string name :: .colon :: (ts ++ .comma :: us),
        .join .colon (by decide) hname.name (.join _ (by decide) hlex hlex'), fun rest => ?_⟩
      obtain ⟨_, hv⟩ := hparse (.comma :: (us ++ .rbrace :: rest))
      obtain ⟨_, hms⟩ := hparse' rest
      rw [List.cons_append, List.cons_append, List.append_assoc]
      exact members?_comma hv hms

/-- Every text that a value is written as is read as that value. -/
theorem read?_of_written {v : Json} {text : List Char} (h : Written (.value v) text) :
    read? text = some v := by
  obtain ⟨ts, hlex, hparse⟩ := h.reads
  obtain ⟨_, hv⟩ := hparse.all
  have htext := hlex [] ends_nil
  rw [List.append_nil, lex?, Option.map_some, List.append_nil] at htext
  rw [read?, htext]
  show (value? ts >>= _) = _
  rw [hv]
  rfl

end Gridscript.Json
