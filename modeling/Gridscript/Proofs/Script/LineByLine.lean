/-
  Sources line by line.

  A line end between two sources is a token of its own: no word, number or comment goes on after
  it (`layout_newline_iff`). No statement reads beyond the end of its line, and the readers start
  with the same nesting on every line, so the statements on both sides of a line end are those
  that each side has by itself (`statements_append_iff`). Lines only number the statements.
  Together, a source is read line by line (`parse_line_by_line`).
-/
import Gridscript.Proofs.Script.Words

namespace Gridscript.Script

/-! ## Layouts -/

theorem IsGap.not_mem {gap : List Char} (h : IsGap gap) : '\n' ∉ gap :=
  fun hmem => (h '\n' hmem).2 rfl

theorem IsRemark.not_mem {remark : List Char} (h : IsRemark remark) : '\n' ∉ remark := by
  obtain rfl | ⟨text, rfl, htext⟩ := h
  · exact List.not_mem_nil
  · exact fun hmem => (List.mem_cons.1 hmem).elim (by decide) htext

theorem Layout.count_newline {before : Token} {ts : List Token} {text : List Char}
    (h : Layout before ts text) : ts.count .newline = text.count '\n' := by
  induction h with
  | finish hg hr =>
      rw [List.count_append, List.count_eq_zero.2 hg.not_mem, List.count_eq_zero.2 hr.not_mem]
      rfl
  | newline hg hr _ ih =>
      rw [List.count_cons_self, ih, List.count_append, List.count_eq_zero.2 hg.not_mem,
        List.count_append, List.count_eq_zero.2 hr.not_mem, List.count_cons_self]
      omega
  | token hg ht _ _ ih =>
      rw [List.count_cons_of_ne ht.ne_newline, ih, List.count_append,
        List.count_eq_zero.2 hg.not_mem, List.count_append, List.count_eq_zero.2 ht.not_mem]
      omega

theorem Layout.join {before : Token} {ts us : List Token} {s t : List Char}
    (h : Layout before ts s) (ht : Layout .newline us t) :
    Layout before (ts ++ .newline :: us) (s ++ '\n' :: t) := by
  induction h with
  | finish hg hr =>
      rw [List.append_assoc]
      exact .newline hg hr ht
  | newline hg hr _ ih =>
      rw [List.append_assoc, List.append_assoc]
      exact .newline hg hr ih
  | token hg hs hsep _ ih =>
      rw [List.append_assoc, List.append_assoc]
      exact .token hg hs hsep ih

theorem Layout.split {before : Token} {ts : List Token} {s t : List Char}
    (h : Layout before ts (s ++ '\n' :: t)) :
    ∃ us vs, ts = us ++ .newline :: vs ∧ Layout before us s ∧ Layout .newline vs t := by
  generalize hsource : s ++ '\n' :: t = source at h
  induction h generalizing s with
  | finish hg hr =>
      have hmem : '\n' ∈ s ++ '\n' :: t := List.mem_append_right _ List.mem_cons_self
      rw [hsource, List.mem_append] at hmem
      exact absurd hmem (not_or.2 ⟨hg.not_mem, hr.not_mem⟩)
  | @newline before ts gap remark rest hg hr h ih =>
      obtain ⟨mid, rfl, hmid⟩ := exists_append_of_not_mem hg.not_mem hsource.symm
      obtain ⟨mid, rfl, hrest⟩ := exists_append_of_not_mem hr.not_mem hmid
      cases mid with
      | nil =>
          obtain ⟨-, rfl⟩ := List.cons.inj hrest
          refine ⟨[], ts, rfl, ?_, h⟩
          rw [List.append_nil]
          exact .finish hg hr
      | cons c mid =>
          obtain ⟨rfl, htail⟩ := List.cons.inj hrest
          obtain ⟨us, vs, rfl, hus, hvs⟩ := ih htail.symm
          exact ⟨.newline :: us, vs, rfl, .newline hg hr hus, hvs⟩
  | @token before u ts gap text rest hg ht hsep _ ih =>
      obtain ⟨mid, rfl, hmid⟩ := exists_append_of_not_mem hg.not_mem hsource.symm
      obtain ⟨mid, rfl, hrest⟩ := exists_append_of_not_mem ht.not_mem hmid
      obtain ⟨us, vs, rfl, hus, hvs⟩ := ih hrest.symm
      exact ⟨u :: us, vs, rfl, .token hg ht hsep hus, hvs⟩

/-- A line end between two texts is one between their tokens. -/
theorem layout_newline_iff {before : Token} {ts : List Token} {s t : List Char} :
    Layout before ts (s ++ '\n' :: t) ↔
      ∃ us vs, ts = us ++ .newline :: vs ∧ Layout before us s ∧ Layout .newline vs t := by
  refine ⟨Layout.split, ?_⟩
  rintro ⟨us, vs, rfl, hus, hvs⟩
  exact hus.join hvs

/-! ## Other lines -/

def Lexeme.mapLine (f : Nat → Nat) (t : Lexeme) : Lexeme := ⟨f t.line, t.token⟩

def Statement.mapLine (f : Nat → Nat) (s : Statement) : Statement := ⟨f s.line, s.action⟩

theorem Statement.line_mapLine (f : Nat → Nat) (s : Statement) : (s.mapLine f).line = f s.line :=
  rfl

theorem placed_add (line k : Nat) (ts : List Token) :
    placed (line + k) ts = (placed line ts).map (Lexeme.mapLine (· + k)) := by
  induction ts generalizing line with
  | nil => rfl
  | cons t ts ih =>
      rw [placed, placed, List.map_cons, ← ih]
      by_cases ht : t = .newline
      · rw [if_pos ht, if_pos ht, Nat.add_right_comm]
        rfl
      · rw [if_neg ht, if_neg ht]
        rfl

variable {goal : Goal} {depth : Nat} {ts rest : List Lexeme} {e : Expr}

theorem tokenOf_mapLine (f : Nat → Nat) (ts : List Lexeme) :
    tokenOf (ts.map (Lexeme.mapLine f)) = tokenOf ts := by
  cases ts <;> rfl

theorem Reads.mapLine (h : Reads goal depth ts e rest) (f : Nat → Nat) :
    Reads goal depth (ts.map (Lexeme.mapLine f)) e (rest.map (Lexeme.mapLine f)) := by
  induction h with
  | chain _ _ hl ht => exact .chain hl ht
  | factor _ h => exact .factor h
  | atom _ h => exact .atom h
  | chainEnd hop => exact .chainEnd (by rwa [tokenOf_mapLine])
  | chainNext hop hd _ _ hr ht => exact .chainNext hop hd hr ht
  | neg hd _ h => exact .neg hd h
  | transpose hd _ h => exact .transpose hd h
  | bare hm ht _ h => exact .bare (by rwa [tokenOf_mapLine]) (by rwa [tokenOf_mapLine]) h
  | indexed _ _ hp ht => exact .indexed hp ht
  | indexEnd hb => exact .indexEnd (by rwa [tokenOf_mapLine])
  | indexNext hd _ _ hp ht => exact .indexNext hd hp ht
  | int => exact .int
  | var => exact .var
  | paren hd _ h => exact .paren hd h

/-! ## Line ends after expressions -/

section LineEnds

variable {more : List Lexeme}

theorem AtLineEnd.append (hrest : AtLineEnd rest) (hmore : AtLineEnd more) :
    AtLineEnd (rest ++ more) := by
  cases rest with
  | nil => exact hmore
  | cons t rest => exact hrest

theorem AtLineEnd.of_append (h : AtLineEnd (rest ++ more)) : AtLineEnd rest := by
  cases rest with
  | nil => exact .inr rfl
  | cons t rest => exact h

/-- A token inside a line that stands before or after the place of a line end stands before it. -/
theorem exists_cons_of_append {t : Lexeme} (h : t :: rest = ts ++ more)
    (hmore : AtLineEnd more) (ht : t.token ≠ .newline ∧ t.token ≠ .eof) :
    ∃ ts', ts = t :: ts' ∧ rest = ts' ++ more := by
  cases ts with
  | nil =>
      rw [List.nil_append] at h
      rw [AtLineEnd, ← h] at hmore
      exact absurd hmore (not_or.2 ht)
  | cons u ts =>
      obtain ⟨rfl, rfl⟩ := List.cons.inj h
      exact ⟨ts, rfl, rfl⟩

theorem Level.inLine_of_operator {level : Level} {t : Token} {op : BinaryOp}
    (h : level.operator? t = some op) : t ≠ .newline ∧ t ≠ .eof := by
  constructor
  all_goals
    rintro rfl
    cases level <;> cases h

/-- With a line end put after the tokens, a test of the next token comes out the same if it
    treats both kinds of line ends the same. -/
theorem tokenOf_append_iff {P : Token → Prop} (hP : P .newline ↔ P .eof)
    (hmore : AtLineEnd more) (ts : List Lexeme) : P (tokenOf (ts ++ more)) ↔ P (tokenOf ts) := by
  cases ts with
  | nil =>
      obtain h | h := hmore
      · rw [List.nil_append, h]
        exact hP
      · rw [List.nil_append, h]
        exact Iff.rfl
  | cons t ts => exact Iff.rfl

theorem operator?_append_iff (level : Level) (hmore : AtLineEnd more) (ts : List Lexeme) :
    level.operator? (tokenOf (ts ++ more)) = none ↔ level.operator? (tokenOf ts) = none :=
  tokenOf_append_iff (P := fun t => level.operator? t = none) (by cases level <;> exact Iff.rfl)
    hmore ts

theorem tokenOf_append_ne_iff {t : Token} (ht : t ≠ .newline ∧ t ≠ .eof)
    (hmore : AtLineEnd more) (ts : List Lexeme) : tokenOf (ts ++ more) ≠ t ↔ tokenOf ts ≠ t :=
  tokenOf_append_iff (P := (· ≠ t)) (iff_of_true ht.1.symm ht.2.symm) hmore ts

theorem Reads.append (h : Reads goal depth ts e rest) (hmore : AtLineEnd more) :
    Reads goal depth (ts ++ more) e (rest ++ more) := by
  induction h with
  | chain _ _ hl ht => exact .chain hl ht
  | factor _ h => exact .factor h
  | atom _ h => exact .atom h
  | chainEnd hop => exact .chainEnd ((operator?_append_iff _ hmore _).2 hop)
  | chainNext hop hd _ _ hr ht => exact .chainNext hop hd hr ht
  | neg hd _ h => exact .neg hd h
  | transpose hd _ h => exact .transpose hd h
  | bare hm ht _ h =>
      exact .bare ((tokenOf_append_ne_iff (by decide) hmore _).2 hm)
        ((tokenOf_append_ne_iff (by decide) hmore _).2 ht) h
  | indexed _ _ hp ht => exact .indexed hp ht
  | indexEnd hb => exact .indexEnd ((tokenOf_append_ne_iff (by decide) hmore _).2 hb)
  | indexNext hd _ _ hp ht => exact .indexNext hd hp ht
  | int => exact .int
  | var => exact .var
  | paren hd _ h => exact .paren hd h

/-- No reader goes beyond a line end, or reads something else because of it. -/
theorem Reads.of_append (h : Reads goal depth (ts ++ more) e rest) (hmore : AtLineEnd more) :
    ∃ mid, rest = mid ++ more ∧ Reads goal depth ts e mid := by
  generalize hus : ts ++ more = us at h
  induction h generalizing ts with
  | chain _ _ ihl iht =>
      obtain ⟨mid, rfl, hl⟩ := ihl hus
      obtain ⟨rest, rfl, ht⟩ := iht rfl
      exact ⟨rest, rfl, .chain hl ht⟩
  | factor _ ih =>
      obtain ⟨rest, rfl, h⟩ := ih hus
      exact ⟨rest, rfl, .factor h⟩
  | atom _ ih =>
      obtain ⟨rest, rfl, h⟩ := ih hus
      exact ⟨rest, rfl, .atom h⟩
  | chainEnd hop =>
      subst hus
      exact ⟨ts, rfl, .chainEnd ((operator?_append_iff _ hmore _).1 hop)⟩
  | chainNext hop hd _ _ ihr iht =>
      obtain ⟨ts, rfl, hts⟩ := exists_cons_of_append hus.symm hmore (Level.inLine_of_operator hop)
      obtain ⟨mid, rfl, hr⟩ := ihr hts.symm
      obtain ⟨rest, rfl, ht⟩ := iht rfl
      exact ⟨rest, rfl, .chainNext hop hd hr ht⟩
  | neg hd _ ih =>
      obtain ⟨ts, rfl, hts⟩ := exists_cons_of_append hus.symm hmore ⟨nofun, nofun⟩
      obtain ⟨rest, rfl, h⟩ := ih hts.symm
      exact ⟨rest, rfl, .neg hd h⟩
  | transpose hd _ ih =>
      obtain ⟨ts, rfl, hts⟩ := exists_cons_of_append hus.symm hmore ⟨nofun, nofun⟩
      obtain ⟨rest, rfl, h⟩ := ih hts.symm
      exact ⟨rest, rfl, .transpose hd h⟩
  | bare hm ht _ ih =>
      obtain ⟨rest, rfl, h⟩ := ih hus
      subst hus
      exact ⟨rest, rfl, .bare ((tokenOf_append_ne_iff (by decide) hmore _).1 hm)
        ((tokenOf_append_ne_iff (by decide) hmore _).1 ht) h⟩
  | indexed _ _ ihp iht =>
      obtain ⟨mid, rfl, hp⟩ := ihp hus
      obtain ⟨rest, rfl, ht⟩ := iht rfl
      exact ⟨rest, rfl, .indexed hp ht⟩
  | indexEnd hb =>
      subst hus
      exact ⟨ts, rfl, .indexEnd ((tokenOf_append_ne_iff (by decide) hmore _).1 hb)⟩
  | indexNext hd _ _ ihp iht =>
      obtain ⟨ts, rfl, hts⟩ := exists_cons_of_append hus.symm hmore ⟨nofun, nofun⟩
      obtain ⟨us, hus, hp⟩ := ihp hts.symm
      obtain ⟨mid, rfl, hmid⟩ := exists_cons_of_append hus hmore ⟨nofun, nofun⟩
      obtain ⟨rest, rfl, ht⟩ := iht hmid.symm
      exact ⟨rest, rfl, .indexNext hd hp ht⟩
  | int =>
      obtain ⟨ts, rfl, rfl⟩ := exists_cons_of_append hus.symm hmore ⟨nofun, nofun⟩
      exact ⟨ts, rfl, .int⟩
  | var =>
      obtain ⟨ts, rfl, rfl⟩ := exists_cons_of_append hus.symm hmore ⟨nofun, nofun⟩
      exact ⟨ts, rfl, .var⟩
  | paren hd _ ih =>
      obtain ⟨ts, rfl, hts⟩ := exists_cons_of_append hus.symm hmore ⟨nofun, nofun⟩
      obtain ⟨us, hus, h⟩ := ih hts.symm
      obtain ⟨mid, rfl, rfl⟩ := exists_cons_of_append hus hmore ⟨nofun, nofun⟩
      exact ⟨mid, rfl, .paren hd h⟩

/-! ## Statements -/

variable {s : Statement} {program : Program}

theorem ReadsStatement.mapLine (h : ReadsStatement ts s rest) (f : Nat → Nat) :
    ReadsStatement (ts.map (Lexeme.mapLine f)) (s.mapLine f) (rest.map (Lexeme.mapLine f)) := by
  cases h with
  | persistent => exact .persistent
  | assign h => exact .assign (h.mapLine f)
  | display h => exact .display (h.mapLine f)

theorem ReadsStatement.append (h : ReadsStatement ts s rest) (hmore : AtLineEnd more) :
    ReadsStatement (ts ++ more) s (rest ++ more) := by
  cases h with
  | persistent => exact .persistent
  | assign h => exact .assign (h.append hmore)
  | display h => exact .display (h.append hmore)

theorem ReadsStatement.of_append (h : ReadsStatement (ts ++ more) s rest)
    (hmore : AtLineEnd more) : ∃ mid, rest = mid ++ more ∧ ReadsStatement ts s mid := by
  generalize hus : ts ++ more = us at h
  cases h with
  | persistent =>
      obtain ⟨ts, rfl, hts⟩ := exists_cons_of_append hus.symm hmore ⟨nofun, nofun⟩
      obtain ⟨ts, rfl, rfl⟩ := exists_cons_of_append hts hmore ⟨nofun, nofun⟩
      exact ⟨ts, rfl, .persistent⟩
  | assign h =>
      obtain ⟨ts, rfl, hts⟩ := exists_cons_of_append hus.symm hmore ⟨nofun, nofun⟩
      obtain ⟨ts, rfl, rfl⟩ := exists_cons_of_append hts hmore ⟨nofun, nofun⟩
      obtain ⟨mid, rfl, hmid⟩ := h.of_append hmore
      exact ⟨mid, rfl, .assign hmid⟩
  | display h =>
      rw [← hus] at h
      obtain ⟨mid, rfl, hmid⟩ := h.of_append hmore
      cases ts with
      | nil => exact absurd hmid.length_lt (Nat.not_lt_zero _)
      | cons t ts =>
          obtain ⟨rfl, -⟩ := List.cons.inj hus
          exact ⟨mid, rfl, .display hmid⟩

/-! ## Programs -/

/-- `ReadsProgram ts program`: the tokens `ts` hold the statements of `program`. -/
inductive ReadsProgram : List Lexeme → Program → Prop
  | nil : ReadsProgram [] []
  | eof {line : Nat} {ts : List Lexeme} : ReadsProgram (⟨line, .eof⟩ :: ts) []
  | newline {line : Nat} {ts : List Lexeme} {program : Program} (h : ReadsProgram ts program) :
      ReadsProgram (⟨line, .newline⟩ :: ts) program
  | next {ts rest : List Lexeme} {s : Statement} {program : Program}
      (hs : ReadsStatement ts s rest) (hrest : AtLineEnd rest) (h : ReadsProgram rest program) :
      ReadsProgram ts (s :: program)

theorem ReadsProgram.statements_eq (h : ReadsProgram ts program) :
    statements ts = .ok program := by
  induction h with
  | nil => rw [statements]
  | eof => rw [statements]
  | newline _ ih => rw [statements, ih]
  | next hs hrest _ ih =>
      obtain ⟨us, rfl, hd⟩ := hs.derived
      obtain ⟨t, us, rfl⟩ := hd.exists_cons
      obtain ⟨hn, he⟩ := hd.ne_of_mem t List.mem_cons_self
      obtain ⟨hlt, hs⟩ := hs.statement_eq hrest
      simp only [List.cons_append] at hs ⊢
      rw [statements]
      · simp only [hs, ih]
        exact if_pos hrest
      · rintro _ rfl
        exact he rfl
      · rintro _ rfl
        exact hn rfl

theorem readsProgram_of_statements (h : statements ts = .ok program) :
    ReadsProgram ts program := by
  fun_induction statements ts generalizing program with
  | case1 => cases h; exact .nil
  | case2 => cases h; exact .eof
  | case3 _ _ ih => exact .newline (ih h)
  | case4 => cases h
  | case5 t more _ _ s rest hlt hs hend ih =>
      obtain ⟨tail, htail, rfl⟩ := (Outcome.map_eq_ok_iff _ _ _).1 h
      exact .next (readsStatement_of_statement hs) hend (ih htail)
  | case6 => cases h

theorem statements_eq_ok_iff : statements ts = .ok program ↔ ReadsProgram ts program :=
  ⟨readsProgram_of_statements, ReadsProgram.statements_eq⟩

theorem ReadsProgram.mapLine (h : ReadsProgram ts program) (f : Nat → Nat) :
    ReadsProgram (ts.map (Lexeme.mapLine f)) (program.map (Statement.mapLine f)) := by
  induction h with
  | nil => exact .nil
  | eof => exact .eof
  | newline _ ih => exact .newline ih
  | next hs hrest _ ih => exact .next (hs.mapLine f) (by rwa [AtLineEnd, tokenOf_mapLine]) ih

theorem ReadsProgram.append {q : Program} (h : ReadsProgram ts program)
    (hts : ∀ t ∈ ts, t.token ≠ .eof) (hmore : AtLineEnd more) (hq : ReadsProgram more q) :
    ReadsProgram (ts ++ more) (program ++ q) := by
  induction h with
  | nil => exact hq
  | eof => exact absurd rfl (hts _ List.mem_cons_self)
  | newline _ ih => exact .newline (ih fun t ht => hts t (List.mem_cons_of_mem _ ht))
  | next hs hrest _ ih =>
      obtain ⟨us, rfl, -⟩ := hs.derived
      exact .next (hs.append hmore) (hrest.append hmore)
        (ih fun t ht => hts t (List.mem_append_right _ ht))

theorem ReadsProgram.of_append (h : ReadsProgram (ts ++ more) program)
    (hts : ∀ t ∈ ts, t.token ≠ .eof) (hmore : AtLineEnd more) :
    ∃ p q, program = p ++ q ∧ ReadsProgram ts p ∧ ReadsProgram more q := by
  generalize hus : ts ++ more = us at h
  induction h generalizing ts with
  | nil =>
      obtain ⟨rfl, rfl⟩ := List.append_eq_nil_iff.1 hus
      exact ⟨[], [], rfl, .nil, .nil⟩
  | eof =>
      cases ts with
      | nil =>
          rw [List.nil_append] at hus
          subst hus
          exact ⟨[], [], rfl, .nil, .eof⟩
      | cons t ts =>
          obtain ⟨rfl, -⟩ := List.cons.inj hus
          exact absurd rfl (hts _ List.mem_cons_self)
  | @newline line us program h ih =>
      cases ts with
      | nil =>
          rw [List.nil_append] at hus
          subst hus
          exact ⟨[], program, rfl, .nil, .newline h⟩
      | cons t ts =>
          obtain ⟨rfl, htail⟩ := List.cons.inj hus
          obtain ⟨p, q, rfl, hp, hq⟩ := ih (fun t ht => hts t (List.mem_cons_of_mem _ ht)) htail
          exact ⟨p, q, rfl, .newline hp, hq⟩
  | next hs hrest _ ih =>
      subst hus
      obtain ⟨mid, rfl, hmid⟩ := hs.of_append hmore
      obtain ⟨us, rfl, -⟩ := hmid.derived
      obtain ⟨p, q, rfl, hp, hq⟩ := ih (fun t ht => hts t (List.mem_append_right _ ht)) rfl
      exact ⟨_ :: p, q, rfl, .next hmid hrest.of_append hp, hq⟩

theorem ReadsProgram.unique {q : Program} (h : ReadsProgram ts program)
    (hq : ReadsProgram ts q) : program = q :=
  Except.ok.inj (h.statements_eq.symm.trans hq.statements_eq)

/-- Tokens of one line hold at most one statement. -/
theorem ReadsProgram.eq_singleton (h : ReadsProgram ts program)
    (hts : ∀ t ∈ ts, t.token ≠ .newline ∧ t.token ≠ .eof) :
    program = [] ∨ ∃ action, program = [⟨lineOf ts, action⟩] := by
  cases h with
  | nil => exact .inl rfl
  | eof => exact .inl rfl
  | newline => exact absurd rfl (hts _ List.mem_cons_self).1
  | @next _ rest s program hs hrest h =>
      obtain ⟨us, rfl, hd⟩ := hs.derived
      have hnil : rest = [] := by
        cases rest with
        | nil => rfl
        | cons t rest =>
            have ht := hts t (List.mem_append_right _ List.mem_cons_self)
            exact absurd hrest (not_or.2 ht)
      subst hnil
      rw [h.unique .nil]
      cases hd <;> exact .inr ⟨_, rfl⟩

end LineEnds

/-! ## Sources -/

theorem Layout.placed_ne_eof {before : Token} {ts : List Token} {text : List Char}
    (h : Layout before ts text) (line : Nat) : ∀ t ∈ placed line ts, t.token ≠ .eof :=
  fun _ ht => (h.isPlain _ (token_mem_of_mem_placed ht)).1

/-- A source stands for the program that the tokens of its layout hold. -/
theorem parse_eq_ok_iff {source : List Char} {program : Program} :
    parse source = .ok program ↔
      ∃ ts, Layout .newline ts source ∧ ReadsProgram (placed 1 ts) program := by
  rw [parse, Outcome.bind_eq_ok_iff]
  constructor
  · rintro ⟨us, hus, hs⟩
    obtain ⟨ts, hlayout, rfl⟩ := lexemesFrom_eq_ok_iff.1 hus
    rw [placed_append, statements_eq_ok_iff] at hs
    obtain ⟨p, q, rfl, hp, hq⟩ := hs.of_append (hlayout.placed_ne_eof 1) (.inr rfl)
    rw [hq.unique .eof, List.append_nil]
    exact ⟨ts, hlayout, hp⟩
  · rintro ⟨ts, hlayout, hp⟩
    have heof : ReadsProgram (placed (1 + ts.count .newline) [.eof]) [] := .eof
    have hs := hp.append (hlayout.placed_ne_eof 1) (.inr rfl) heof
    rw [← placed_append, List.append_nil] at hs
    exact ⟨_, hlayout.lexemesFrom_eq 1, hs.statements_eq⟩

theorem readsProgram_placed_add_iff {line k : Nat} {ts : List Token} {program : Program} :
    ReadsProgram (placed (line + k) ts) program ↔
      ∃ q, ReadsProgram (placed line ts) q ∧ program = q.map (Statement.mapLine (· + k)) := by
  rw [placed_add]
  constructor
  · intro h
    -- Moving the tokens back gives the program of the tokens where they were.
    have hback := h.mapLine (· - k)
    have hid : Lexeme.mapLine (· - k) ∘ Lexeme.mapLine (· + k) = id := by
      funext t
      exact congrArg (Lexeme.mk · t.token) (Nat.add_sub_cancel t.line k)
    rw [List.map_map, hid, List.map_id] at hback
    exact ⟨_, hback, h.unique (hback.mapLine (· + k))⟩
  · rintro ⟨q, hq, rfl⟩
    exact hq.mapLine (· + k)

theorem readsProgram_placed_newline_iff {line : Nat} {ts : List Token} {program : Program} :
    ReadsProgram (placed line (.newline :: ts)) program ↔
      ReadsProgram (placed (line + 1) ts) program := by
  rw [placed, if_pos rfl, ← statements_eq_ok_iff, ← statements_eq_ok_iff, statements]

/-- A source with a line end in it stands for the statements of the parts before and after it,
    those after it on later lines. -/
theorem parse_newline_iff {s t : List Char} {program : Program} :
    parse (s ++ '\n' :: t) = .ok program ↔
      ∃ p q, parse s = .ok p ∧ parse t = .ok q ∧
        program = p ++ q.map (Statement.mapLine (· + (1 + s.count '\n'))) := by
  have hline : 1 + s.count '\n' + 1 = 1 + (1 + s.count '\n') := by omega
  simp only [parse_eq_ok_iff, layout_newline_iff]
  constructor
  · rintro ⟨_, ⟨us, vs, rfl, hus, hvs⟩, h⟩
    rw [placed_append, hus.count_newline] at h
    obtain ⟨p, q, rfl, hp, hq⟩ := h.of_append (hus.placed_ne_eof 1) (.inl rfl)
    rw [readsProgram_placed_newline_iff, hline, readsProgram_placed_add_iff] at hq
    obtain ⟨q, hq, rfl⟩ := hq
    exact ⟨p, q, ⟨us, hus, hp⟩, ⟨vs, hvs, hq⟩, rfl⟩
  · rintro ⟨p, q, ⟨us, hus, hp⟩, ⟨vs, hvs, hq⟩, rfl⟩
    refine ⟨us ++ .newline :: vs, ⟨us, vs, rfl, hus, hvs⟩, ?_⟩
    rw [placed_append, hus.count_newline]
    refine hp.append (hus.placed_ne_eof 1) (.inl rfl) ?_
    rw [readsProgram_placed_newline_iff, hline, readsProgram_placed_add_iff]
    exact ⟨q, hq, rfl⟩

/-- A source of one line holds at most one statement. -/
theorem eq_singleton_of_parse {text : List Char} {program : Program} (htext : '\n' ∉ text)
    (h : parse text = .ok program) : program = [] ∨ ∃ action, program = [⟨1, action⟩] := by
  obtain ⟨ts, hlayout, hp⟩ := parse_eq_ok_iff.1 h
  have hnewline : .newline ∉ ts := by
    rw [← List.count_eq_zero, hlayout.count_newline]
    exact List.count_eq_zero.2 htext
  have hinside : ∀ t ∈ placed 1 ts, t.token ≠ .newline ∧ t.token ≠ .eof := by
    intro t ht
    have hmem := token_mem_of_mem_placed ht
    exact ⟨fun hn => hnewline (hn ▸ hmem), (hlayout.isPlain _ hmem).1⟩
  cases ts with
  | nil => exact .inl (hp.unique .nil)
  | cons t ts => exact hp.eq_singleton hinside

theorem of_mem_parse_line {text : List Char} {program : Program} (htext : '\n' ∉ text)
    (h : parse text = .ok program) {s : Statement} (hs : s ∈ program) :
    s.line = 1 ∧ parse text = .ok [⟨1, s.action⟩] := by
  obtain rfl | ⟨action, rfl⟩ := eq_singleton_of_parse htext h
  · exact absurd hs List.not_mem_nil
  · obtain rfl := List.mem_singleton.1 hs
    exact ⟨rfl, h⟩

/-- A source is one line, or a line with the end of it and another source after it. -/
@[elab_as_elim]
theorem source_induction {P : List Char → Prop} (line : ∀ text, '\n' ∉ text → P text)
    (next : ∀ text rest, '\n' ∉ text → P rest → P (text ++ '\n' :: rest))
    (source : List Char) : P source := by
  by_cases hmem : '\n' ∈ source
  · obtain ⟨text, rest, hsource, htext⟩ := List.eq_append_cons_of_mem hmem
    rw [hsource]
    exact next text rest htext (source_induction line next rest)
  · exact line source hmem
termination_by source.length
decreasing_by
  rw [hsource, List.length_append, List.length_cons]
  omega

/-- Each statement has the action that its line has by itself. -/
theorem exists_line_of_parse {source : List Char} {program : Program}
    (h : parse source = .ok program) {s : Statement} (hs : s ∈ program) :
    ∃ i text, s.line = i + 1 ∧ (source.splitOn '\n')[i]? = some text ∧
      parse text = .ok [⟨1, s.action⟩] := by
  induction source using source_induction generalizing program s with
  | line text htext =>
      obtain ⟨hline, hself⟩ := of_mem_parse_line htext h hs
      exact ⟨0, text, hline, by rw [List.splitOn_eq_singleton htext]; rfl, hself⟩
  | next text rest htext ih =>
      obtain ⟨p, q, hp, hq, rfl⟩ := parse_newline_iff.1 h
      rw [List.splitOn_append_cons_self_of_not_mem htext]
      obtain hs | hs := List.mem_append.1 hs
      · obtain ⟨hline, hself⟩ := of_mem_parse_line htext hp hs
        exact ⟨0, text, hline, rfl, hself⟩
      · obtain ⟨u, hu, rfl⟩ := List.mem_map.1 hs
        obtain ⟨i, text', hline, hget, hself⟩ := ih hq hu
        refine ⟨i + 1, text', ?_, hget, hself⟩
        rw [Statement.line_mapLine, List.count_eq_zero.2 htext, hline]

theorem pairwise_line_of_parse {source : List Char} {program : Program}
    (h : parse source = .ok program) : program.Pairwise fun s t => s.line < t.line := by
  induction source using source_induction generalizing program with
  | line text htext =>
      obtain rfl | ⟨action, rfl⟩ := eq_singleton_of_parse htext h
      · exact .nil
      · exact List.pairwise_singleton _ _
  | next text rest htext ih =>
      obtain ⟨p, q, hp, hq, rfl⟩ := parse_newline_iff.1 h
      refine List.pairwise_append.2 ⟨?_, List.pairwise_map.2 ?_, fun s hs t ht => ?_⟩
      · obtain rfl | ⟨action, rfl⟩ := eq_singleton_of_parse htext hp
        · exact .nil
        · exact List.pairwise_singleton _ _
      · exact (ih hq).imp fun hlt => Nat.add_lt_add_right hlt _
      · obtain ⟨u, hu, rfl⟩ := List.mem_map.1 ht
        obtain ⟨i, -, hline, -⟩ := exists_line_of_parse hq hu
        rw [(of_mem_parse_line htext hp hs).1, Statement.line_mapLine, hline]
        omega

/-- Sources are read line by line. Two sources with a line end between them are accepted exactly
    if both are, as the statements of the first and then those of the second, on lines that
    start after the first. So the statements of a source stand on rising lines, and each is what
    its line stands for by itself, with nothing from the other lines. -/
theorem parse_line_by_line (s t : List Char) :
    (∀ program, parse (s ++ '\n' :: t) = .ok program ↔
      ∃ p q, parse s = .ok p ∧ parse t = .ok q ∧
        program = p ++ q.map (Statement.mapLine (· + (1 + s.count '\n')))) ∧
    ∀ source program, parse source = .ok program →
      program.Pairwise (fun u v => u.line < v.line) ∧
        ∀ u ∈ program, ∃ i text, u.line = i + 1 ∧ (source.splitOn '\n')[i]? = some text ∧
          parse text = .ok [⟨1, u.action⟩] :=
  ⟨fun _ => parse_newline_iff,
    fun _ _ h => ⟨pairwise_line_of_parse h, fun _ hu => exists_line_of_parse h hu⟩⟩

end Gridscript.Script
