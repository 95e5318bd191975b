/-
  From tokens to programs.

  A program is a sequence of statements, each on a line of its own. Sums are chains of products,
  products are chains of signed operands, and an operand is a number, a name or an expression in
  parentheses, followed by any number of positions in brackets. Chains associate to the left.

  Every binary operator, sign, bracket and parenthesis that is open at a place counts toward the
  nesting there, which may not pass `depthLimit`. All readers return the tokens that are left,
  with the fact that they got fewer; the recursion ends because of it.
-/
import Gridscript.Script.Lexeme

namespace Gridscript.Script

/-- The deepest nesting of an expression. -/
def depthLimit : Nat := 256

/-- The line of the next token. -/
def lineOf : List Lexeme → Nat
  | [] => 0
  | t :: _ => t.line

/-- The next token. -/
def tokenOf : List Lexeme → Token
  | [] => .eof
  | t :: _ => t.token

/-- A fault at the next token, where something else was wanted. -/
def missing (wanted : Wanted) (ts : List Lexeme) : Fault :=
  ⟨lineOf ts, .badSyntax (.expected wanted (tokenOf ts))⟩

/-- The tokens after the next one, which has to be `token`. -/
def expect (token : Token) (wanted : Wanted) (ts : List Lexeme) :
    Except Fault { rest : List Lexeme // rest.length < ts.length } :=
  match ts with
  | [] => .error (missing wanted [])
  | t :: rest =>
      if t.token = token then .ok ⟨rest, Nat.lt_succ_self _⟩ else .error (missing wanted (t :: rest))

/-- One level deeper, if the nesting allows it. -/
def deepen (depth : Nat) (ts : List Lexeme) : Except Fault Nat :=
  if depth < depthLimit then .ok (depth + 1) else .error ⟨lineOf ts, .badSyntax .tooDeep⟩

/-- The two levels of binary operators. -/
inductive Level where
  | sum
  | product
deriving DecidableEq

/-- The operator of a level that a token stands for. -/
def Level.operator? : Level → Token → Option BinaryOp
  | sum, .plus => some .add
  | sum, .minus => some .sub
  | product, .star => some .mul
  | product, .slash => some .div
  | _, _ => none

/-- Place of a level in the descent from sums to operands. -/
def Level.rank : Level → Nat
  | sum => 2
  | product => 1

/-- An expression and the fewer tokens that are left after it. -/
abbrev Parsed (ts : List Lexeme) := Expr × { rest : List Lexeme // rest.length < ts.length }

/-- An expression and the tokens that are left after it. -/
abbrev Continued (ts : List Lexeme) := Expr × { rest : List Lexeme // rest.length ≤ ts.length }

mutual

/-- A chain of operands joined by the operators of a level. -/
def chain (level : Level) (depth : Nat) (ts : List Lexeme) : Except Fault (Parsed ts) :=
  match operand level depth ts with
  | .error f => .error f
  | .ok (lhs, ⟨rest, h⟩) =>
      match chainTail level depth lhs rest with
      | .error f => .error f
      | .ok (e, ⟨rest', h'⟩) => .ok (e, ⟨rest', Nat.lt_of_le_of_lt h' h⟩)
termination_by (ts.length, 2 * level.rank + 2)

/-- What the operators of a level join. -/
def operand (level : Level) (depth : Nat) (ts : List Lexeme) : Except Fault (Parsed ts) :=
  match level with
  | .sum => chain .product depth ts
  | .product => signed depth ts
termination_by (ts.length, 2 * level.rank + 1)
decreasing_by all_goals exact Prod.Lex.right _ (by decide)

/-- The rest of a chain whose operands so far make up `lhs`. -/
def chainTail (level : Level) (depth : Nat) (lhs : Expr) (ts : List Lexeme) :
    Except Fault (Continued ts) :=
  match ts with
  | [] => .ok (lhs, ⟨[], Nat.le_refl _⟩)
  | t :: rest =>
      match level.operator? t.token with
      | none => .ok (lhs, ⟨t :: rest, Nat.le_refl _⟩)
      | some op =>
          match deepen depth rest with
          | .error f => .error f
          | .ok deeper =>
              match operand level deeper rest with
              | .error f => .error f
              | .ok (rhs, ⟨rest', h⟩) =>
                  match chainTail level deeper (.binary op lhs rhs) rest' with
                  | .error f => .error f
                  | .ok (e, ⟨rest'', h'⟩) =>
                      .ok (e, ⟨rest'', Nat.le_succ_of_le (Nat.le_of_lt (Nat.lt_of_le_of_lt h' h))⟩)
termination_by (ts.length, 0)

/-- An operand under any number of signs. -/
def signed (depth : Nat) (ts : List Lexeme) : Except Fault (Parsed ts) :=
  match ts with
  | ⟨_, .minus⟩ :: rest =>
      match deepen depth rest with
      | .error f => .error f
      | .ok deeper =>
          match signed deeper rest with
          | .error f => .error f
          | .ok (e, ⟨rest', h⟩) => .ok (.neg e, ⟨rest', Nat.lt_succ_of_lt h⟩)
  | ⟨_, .transpose⟩ :: rest =>
      match deepen depth rest with
      | .error f => .error f
      | .ok deeper =>
          match signed deeper rest with
          | .error f => .error f
          | .ok (e, ⟨rest', h⟩) => .ok (.transpose e, ⟨rest', Nat.lt_succ_of_lt h⟩)
  | ts => indexed depth ts
termination_by (ts.length, 2)

/-- A primary expression and the positions after it. -/
def indexed (depth : Nat) (ts : List Lexeme) : Except Fault (Parsed ts) :=
  match primary depth ts with
  | .error f => .error f
  | .ok (target, ⟨rest, h⟩) =>
      match indexTail depth target rest with
      | .error f => .error f
      | .ok (e, ⟨rest', h'⟩) => .ok (e, ⟨rest', Nat.lt_of_le_of_lt h' h⟩)
termination_by (ts.length, 1)

/-- The positions in brackets after `target`. -/
def indexTail (depth : Nat) (target : Expr) (ts : List Lexeme) : Except Fault (Continued ts) :=
  match ts with
  | ⟨_, .lbracket⟩ :: rest =>
      match deepen depth rest with
      | .error f => .error f
      | .ok deeper =>
          match chain .sum deeper rest with
          | .error f => .error f
          | .ok (position, ⟨rest₁, h₁⟩) =>
              match expect .rbracket .closingBracket rest₁ with
              | .error f => .error f
              | .ok ⟨rest₂, h₂⟩ =>
                  match indexTail deeper (.index target position) rest₂ with
                  | .error f => .error f
                  | .ok (e, ⟨rest₃, h₃⟩) =>
                      .ok (e, ⟨rest₃, by simp only [List.length_cons]; omega⟩)
  | ts => .ok (target, ⟨ts, Nat.le_refl _⟩)
termination_by (ts.length, 0)

/-- A number, a name or an expression in parentheses. -/
def primary (depth : Nat) (ts : List Lexeme) : Except Fault (Parsed ts) :=
  match ts with
  | ⟨_, .int n⟩ :: rest => .ok (.int n, ⟨rest, Nat.lt_succ_self _⟩)
  | ⟨_, .ident x⟩ :: rest => .ok (.var x, ⟨rest, Nat.lt_succ_self _⟩)
  | ⟨_, .lparen⟩ :: rest =>
      match deepen depth rest with
      | .error f => .error f
      | .ok deeper =>
          match chain .sum deeper rest with
          | .error f => .error f
          | .ok (e, ⟨rest₁, h₁⟩) =>
              match expect .rparen .closingParen rest₁ with
              | .error f => .error f
              | .ok ⟨rest₂, h₂⟩ => .ok (e, ⟨rest₂, by simp only [List.length_cons]; omega⟩)
  | ts => .error (missing .expression ts)
termination_by (ts.length, 0)

end

/-- One statement. Its line is that of its first token. -/
def statement (ts : List Lexeme) :
    Except Fault (Statement × { rest : List Lexeme // rest.length < ts.length }) :=
  match ts with
  | ⟨line, .persistent⟩ :: ⟨_, .ident x⟩ :: rest =>
      .ok (⟨line, .persistent x⟩, ⟨rest, by simp only [List.length_cons]; omega⟩)
  | ⟨line, .persistent⟩ :: rest =>
      .error ⟨line, .badSyntax (.expected .gridName (tokenOf rest))⟩
  | ⟨line, .ident x⟩ :: ⟨_, .assign⟩ :: rest =>
      match chain .sum 0 rest with
      | .error f => .error f
      | .ok (e, ⟨rest', h⟩) =>
          .ok (⟨line, .assign x e⟩, ⟨rest', by simp only [List.length_cons]; omega⟩)
  | ts =>
      match chain .sum 0 ts with
      | .error f => .error f
      | .ok (e, rest) => .ok (⟨lineOf ts, .display e⟩, rest)

/-- The statements up to the end of the tokens. -/
def statements (ts : List Lexeme) : Except Fault Program :=
  match ts with
  | [] => .ok []
  | ⟨_, .eof⟩ :: _ => .ok []
  | ⟨_, .newline⟩ :: rest => statements rest
  | t :: rest =>
      match statement (t :: rest) with
      | .error f => .error f
      | .ok (s, ⟨rest', _⟩) =>
          if tokenOf rest' = .newline ∨ tokenOf rest' = .eof then
            (statements rest').map (s :: ·)
          else .error (missing .endOfStatement rest')
termination_by ts.length
decreasing_by all_goals simp only [List.length_cons] at *; omega

/-- The program that a source stands for. -/
def parse (source : List Char) : Except Fault Program := do
  let ts ← lexemes source
  statements ts

end Gridscript.Script
