/-
  The grammar of the script language.

    program   := (statement? newline)* statement?
    statement := 'persistent' name | name '=' expr | expr
    expr      := expr ('+' | '-') term | term
    term      := term ('*' | '/') unary | unary
    unary     := '-' unary | 'transpose' unary | indexed
    indexed   := primary ('[' expr ']')*
    primary   := number | name | '(' expr ')'

  `Derives`, `DerivesStatement` and `DerivesProgram` have one rule for each alternative, which
  also says what the tokens stand for. The rules know nothing of readers, of what comes next, or
  of a limit to the nesting.
-/
import Gridscript.Script.Lexeme

namespace Gridscript.Script

/-- What the grammar derives expressions from. -/
inductive Category where
  | expr
  | term
  | unary
  | indexed
  | primary
deriving DecidableEq

/-- `Derives category ts e`: the tokens `ts` are derived from the category and stand for `e`. -/
inductive Derives : Category → List Lexeme → Expr → Prop
  | add {line : Nat} {ts us : List Lexeme} {lhs rhs : Expr} (hl : Derives .expr ts lhs)
      (hr : Derives .term us rhs) :
      Derives .expr (ts ++ ⟨line, .plus⟩ :: us) (.binary .add lhs rhs)
  | sub {line : Nat} {ts us : List Lexeme} {lhs rhs : Expr} (hl : Derives .expr ts lhs)
      (hr : Derives .term us rhs) :
      Derives .expr (ts ++ ⟨line, .minus⟩ :: us) (.binary .sub lhs rhs)
  | exprTerm {ts : List Lexeme} {e : Expr} (h : Derives .term ts e) : Derives .expr ts e
  | mul {line : Nat} {ts us : List Lexeme} {lhs rhs : Expr} (hl : Derives .term ts lhs)
      (hr : Derives .unary us rhs) :
      Derives .term (ts ++ ⟨line, .star⟩ :: us) (.binary .mul lhs rhs)
  | div {line : Nat} {ts us : List Lexeme} {lhs rhs : Expr} (hl : Derives .term ts lhs)
      (hr : Derives .unary us rhs) :
      Derives .term (ts ++ ⟨line, .slash⟩ :: us) (.binary .div lhs rhs)
  | termUnary {ts : List Lexeme} {e : Expr} (h : Derives .unary ts e) : Derives .term ts e
  | neg {line : Nat} {ts : List Lexeme} {e : Expr} (h : Derives .unary ts e) :
      Derives .unary (⟨line, .minus⟩ :: ts) (.neg e)
  | transpose {line : Nat} {ts : List Lexeme} {e : Expr} (h : Derives .unary ts e) :
      Derives .unary (⟨line, .transpose⟩ :: ts) (.transpose e)
  | unaryIndexed {ts : List Lexeme} {e : Expr} (h : Derives .indexed ts e) : Derives .unary ts e
  | indexedPrimary {ts : List Lexeme} {e : Expr} (h : Derives .primary ts e) :
      Derives .indexed ts e
  | index {line line' : Nat} {ts us : List Lexeme} {target position : Expr}
      (ht : Derives .indexed ts target) (hp : Derives .expr us position) :
      Derives .indexed (ts ++ ⟨line, .lbracket⟩ :: (us ++ [⟨line', .rbracket⟩]))
        (.index target position)
  | int {line : Nat} {n : Scalar} : Derives .primary [⟨line, .int n⟩] (.int n)
  | var {line : Nat} {x : String} : Derives .primary [⟨line, .ident x⟩] (.var x)
  | paren {line line' : Nat} {ts : List Lexeme} {e : Expr} (h : Derives .expr ts e) :
      Derives .primary (⟨line, .lparen⟩ :: (ts ++ [⟨line', .rparen⟩])) e

/-- The tokens are a statement, whose line is that of the first of them. -/
inductive DerivesStatement : List Lexeme → Statement → Prop
  | persistent {line line' : Nat} {x : String} :
      DerivesStatement [⟨line, .persistent⟩, ⟨line', .ident x⟩] ⟨line, .persistent x⟩
  | assign {line line' : Nat} {x : String} {ts : List Lexeme} {e : Expr}
      (h : Derives .expr ts e) :
      DerivesStatement (⟨line, .ident x⟩ :: ⟨line', .assign⟩ :: ts) ⟨line, .assign x e⟩
  | display {t : Lexeme} {ts : List Lexeme} {e : Expr} (h : Derives .expr (t :: ts) e) :
      DerivesStatement (t :: ts) ⟨t.line, .display e⟩

/-- The tokens are a program: lines with a statement or none, the last of them without a line
    end. -/
inductive DerivesProgram : List Lexeme → Program → Prop
  | nil : DerivesProgram [] []
  | last {ts : List Lexeme} {s : Statement} (h : DerivesStatement ts s) : DerivesProgram ts [s]
  | blank {line : Nat} {us : List Lexeme} {program : Program} (h : DerivesProgram us program) :
      DerivesProgram (⟨line, .newline⟩ :: us) program
  | next {line : Nat} {ts us : List Lexeme} {s : Statement} {program : Program}
      (hs : DerivesStatement ts s) (h : DerivesProgram us program) :
      DerivesProgram (ts ++ ⟨line, .newline⟩ :: us) (s :: program)

/-! ## Tokens of derivations -/

/-- Tokens that occur in expressions. -/
def Token.inExpr : Token → Bool
  | persistent => false
  | assign => false
  | newline => false
  | eof => false
  | _ => true

theorem Derives.inExpr_of_mem {category : Category} {ts : List Lexeme} {e : Expr}
    (h : Derives category ts e) : ∀ t ∈ ts, t.token.inExpr = true := by
  induction h with
  | add _ _ hl hr => exact List.forall_mem_append.2 ⟨hl, List.forall_mem_cons.2 ⟨rfl, hr⟩⟩
  | sub _ _ hl hr => exact List.forall_mem_append.2 ⟨hl, List.forall_mem_cons.2 ⟨rfl, hr⟩⟩
  | exprTerm _ h => exact h
  | mul _ _ hl hr => exact List.forall_mem_append.2 ⟨hl, List.forall_mem_cons.2 ⟨rfl, hr⟩⟩
  | div _ _ hl hr => exact List.forall_mem_append.2 ⟨hl, List.forall_mem_cons.2 ⟨rfl, hr⟩⟩
  | termUnary _ h => exact h
  | neg _ h => exact List.forall_mem_cons.2 ⟨rfl, h⟩
  | transpose _ h => exact List.forall_mem_cons.2 ⟨rfl, h⟩
  | unaryIndexed _ h => exact h
  | indexedPrimary _ h => exact h
  | index _ _ ht hp =>
      refine List.forall_mem_append.2 ⟨ht, List.forall_mem_cons.2 ⟨rfl, ?_⟩⟩
      exact List.forall_mem_append.2 ⟨hp, List.forall_mem_singleton.2 rfl⟩
  | int => exact List.forall_mem_singleton.2 rfl
  | var => exact List.forall_mem_singleton.2 rfl
  | paren _ h =>
      refine List.forall_mem_cons.2 ⟨rfl, ?_⟩
      exact List.forall_mem_append.2 ⟨h, List.forall_mem_singleton.2 rfl⟩

theorem DerivesStatement.ne_of_mem {ts : List Lexeme} {s : Statement}
    (h : DerivesStatement ts s) : ∀ t ∈ ts, t.token ≠ .newline ∧ t.token ≠ .eof := by
  have hexpr : ∀ {t : Token}, t.inExpr = true → t ≠ .newline ∧ t ≠ .eof := by
    intro t ht
    constructor
    · rintro rfl
      cases ht
    · rintro rfl
      cases ht
  cases h with
  | persistent => simp
  | assign h =>
      refine List.forall_mem_cons.2 ⟨by simp, List.forall_mem_cons.2 ⟨by simp, ?_⟩⟩
      exact fun t ht => hexpr (h.inExpr_of_mem t ht)
  | display h => exact fun t ht => hexpr (h.inExpr_of_mem t ht)

theorem DerivesStatement.exists_cons {ts : List Lexeme} {s : Statement}
    (h : DerivesStatement ts s) : ∃ t us, ts = t :: us := by
  cases h <;> exact ⟨_, _, rfl⟩

end Gridscript.Script
