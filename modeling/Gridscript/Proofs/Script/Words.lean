/-
  Words of a source.

  The tokens of a source end in their only `eof`, and a name among them is made of the
  characters of words. So are the names that a program declares persistent: each is a token of
  the source.
-/
import Gridscript.Proofs.Script.Layout
import Gridscript.Proofs.Script.Recognition

namespace Gridscript.Script

/-- Only characters that a word can go on with. -/
def IsWord (name : String) : Prop := ∀ c ∈ name.toList, isWordPart c = true

theorem IsWord.not_slash {name : String} (h : IsWord name) : '/' ∉ name.toList := by
  intro hmem
  exact absurd (h '/' hmem) (by decide +kernel)

/-- Not the end, and a word if it is a name. -/
def Token.IsPlain (t : Token) : Prop := t ≠ .eof ∧ ∀ name, t = .ident name → IsWord name

/-- Plain tokens, then the end. -/
def Tokenized (ts : List Lexeme) : Prop :=
  ∃ body line, ts = body ++ [⟨line, .eof⟩] ∧ ∀ t ∈ body, t.token.IsPlain

theorem Token.Spelled.isPlain {t : Token} {text : List Char} (h : t.Spelled text) :
    t.IsPlain := by
  cases h with
  | ident h =>
      refine ⟨nofun, fun name hname => ?_⟩
      rw [← Token.ident.inj hname]
      exact h.isWordPart
  | int => exact ⟨nofun, nofun⟩
  | persistent => exact ⟨nofun, nofun⟩
  | transpose => exact ⟨nofun, nofun⟩
  | char h =>
      constructor
      · rintro rfl
        cases h
      · rintro name rfl
        cases h

theorem Layout.isPlain {before : Token} {ts : List Token} {text : List Char}
    (h : Layout before ts text) : ∀ t ∈ ts, t.IsPlain := by
  induction h with
  | finish => exact fun t ht => absurd ht List.not_mem_nil
  | newline _ _ _ ih => exact List.forall_mem_cons.2 ⟨⟨nofun, nofun⟩, ih⟩
  | token _ ht _ _ ih => exact List.forall_mem_cons.2 ⟨ht.isPlain, ih⟩

theorem tokenized_lexemesFrom {line : Nat} {text : List Char} {ts : List Lexeme}
    (h : lexemesFrom line text = .ok ts) : Tokenized ts := by
  obtain ⟨tokens, hlayout, rfl⟩ := lexemesFrom_eq_ok_iff.1 h
  refine ⟨placed line tokens, _, placed_append line tokens [.eof], fun t ht => ?_⟩
  exact hlayout.isPlain _ (token_mem_of_mem_placed ht)

/-! ## Declared names -/

/-- The name that a statement declares persistent. -/
def Statement.declared? (stmt : Statement) : Option String :=
  match stmt.action with
  | .persistent name => some name
  | _ => none

/-- The names that are declared persistent, in order, as often as they are. -/
def declared (program : Program) : List String := program.filterMap Statement.declared?

theorem DerivesStatement.mem_of_declared? {ts : List Lexeme} {s : Statement} {name : String}
    (h : DerivesStatement ts s) (hname : s.declared? = some name) :
    ∃ t ∈ ts, t.token = .ident name := by
  cases h with
  | persistent =>
      cases hname
      exact ⟨_, List.mem_cons_of_mem _ List.mem_cons_self, rfl⟩
  | assign h => cases hname
  | display h => cases hname

theorem mem_declared_cons {name : String} (s : Statement) (program : Program) :
    name ∈ declared (s :: program) ↔ s.declared? = some name ∨ name ∈ declared program := by
  unfold declared
  simp only [List.mem_filterMap, List.mem_cons, exists_eq_or_imp]

/-- Declared names are tokens. -/
theorem DerivesProgram.mem_of_declared {ts : List Lexeme} {program : Program} {name : String}
    (h : DerivesProgram ts program) (hname : name ∈ declared program) :
    ∃ t ∈ ts, t.token = .ident name := by
  induction h with
  | nil => cases hname
  | last h =>
      rcases (mem_declared_cons _ _).1 hname with hname | hname
      · exact h.mem_of_declared? hname
      · cases hname
  | blank h ih =>
      obtain ⟨t, ht, htoken⟩ := ih hname
      exact ⟨t, List.mem_cons_of_mem _ ht, htoken⟩
  | next h _ ih =>
      rcases (mem_declared_cons _ _).1 hname with hname | hname
      · obtain ⟨t, ht, htoken⟩ := h.mem_of_declared? hname
        exact ⟨t, List.mem_append_left _ ht, htoken⟩
      · obtain ⟨t, ht, htoken⟩ := ih hname
        exact ⟨t, List.mem_append_right _ (List.mem_cons_of_mem _ ht), htoken⟩

/-- The names that a source declares persistent are words. -/
theorem isWord_of_declared {source : List Char} {program : Program} {name : String}
    (h : parse source = .ok program) (hname : name ∈ declared program) : IsWord name := by
  obtain ⟨ts, hts, h⟩ := (Outcome.bind_eq_ok_iff _ _ _).1 h
  obtain ⟨body, line, hbody, hplain⟩ := tokenized_lexemesFrom hts
  have hderives := derivesProgram_of_statements h hbody fun t ht => (hplain t ht).1
  obtain ⟨t, ht, htoken⟩ := hderives.mem_of_declared hname
  exact (hplain t ht).2 name htoken

end Gridscript.Script
