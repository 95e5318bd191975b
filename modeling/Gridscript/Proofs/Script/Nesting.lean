/-
  How deep the trees of accepted expressions are.

  The nesting counts what is open at a place, and a reader gives back what it counted once its
  part is read. So the levels that are left serve the positions after a primary expression, the
  factors and the terms anew, each time on top of the tree that is already there. With `k`
  levels left the deepest sum has depth `reach (k + 1)`, which is `3 * k * (k + 1) / 2`, and
  every depth up to it occurs.
-/
import Mathlib.Logic.Function.Iterate
import Gridscript.Proofs.Script.Layout
import Gridscript.Proofs.Script.Reading

namespace Gridscript.Script

/-- Depth of the tree, 0 at its leaves. -/
def Expr.depth : Expr → Nat
  | int _ => 0
  | var _ => 0
  | neg e => e.depth + 1
  | transpose e => e.depth + 1
  | binary _ lhs rhs => max lhs.depth rhs.depth + 1
  | index target position => max target.depth position.depth + 1

/-- Depth that a primary expression can have with `k` levels left: in parentheses stands a sum,
    with one level less, and positions, factors and terms each add the levels that it has. -/
def reach : Nat → Nat
  | 0 => 0
  | k + 1 => reach k + 3 * k

theorem two_mul_reach (k : Nat) : 2 * reach (k + 1) = 3 * k * (k + 1) := by
  induction k with
  | zero => rfl
  | succ k ih =>
      rw [reach, Nat.mul_add, ih]
      simp only [Nat.mul_add, Nat.add_mul]
      omega

/-! ## The bound -/

/-- Depth that the goal can have with `k` levels left. -/
def Goal.bound (k : Nat) : Goal → Nat
  | chain level => reach k + level.rank * k + k
  | operand level => reach k + level.rank * k
  | chainTail level lhs => max lhs.depth (reach k + level.rank * k) + k
  | signed => reach k + k
  | indexed => reach k + k
  | indexTail target => max target.depth (reach k) + k
  | primary => reach k

theorem levels_left {depth : Nat} (hd : depth < depthLimit) :
    depthLimit - depth = depthLimit - (depth + 1) + 1 := by
  omega

theorem Reads.depth_le {goal : Goal} {depth : Nat} {ts rest : List Lexeme} {e : Expr}
    (h : Reads goal depth ts e rest) : e.depth ≤ goal.bound (depthLimit - depth) := by
  -- A rule that goes one level deeper has `k + 1` levels left and its premises have `k`.
  induction h with
  | chain _ _ hl ht =>
      simp only [Goal.bound] at hl ht ⊢
      omega
  | factor _ h =>
      simp only [Goal.bound, Level.rank] at h ⊢
      omega
  | atom _ h =>
      simp only [Goal.bound, Level.rank] at h ⊢
      omega
  | chainEnd =>
      simp only [Goal.bound]
      omega
  | chainNext _ hd _ _ hr ht =>
      rw [levels_left hd]
      simp only [Goal.bound, Expr.depth, reach, Nat.mul_succ] at hr ht ⊢
      omega
  | neg hd _ h =>
      rw [levels_left hd]
      simp only [Goal.bound, Expr.depth, reach] at h ⊢
      omega
  | transpose hd _ h =>
      rw [levels_left hd]
      simp only [Goal.bound, Expr.depth, reach] at h ⊢
      omega
  | bare _ _ _ h => exact h
  | indexed _ _ hp ht =>
      simp only [Goal.bound] at hp ht ⊢
      omega
  | indexEnd =>
      simp only [Goal.bound]
      omega
  | indexNext hd _ _ hp ht =>
      rw [levels_left hd]
      simp only [Goal.bound, Expr.depth, reach, Level.rank] at hp ht ⊢
      omega
  | int => exact Nat.zero_le _
  | var => exact Nat.zero_le _
  | paren hd _ h =>
      rw [levels_left hd]
      simp only [Goal.bound, reach, Level.rank] at h ⊢
      omega

/-! ## Deep expressions -/

/-- What the deep expressions below are written with. -/
inductive Mark where
  | plus
  | minus
  | star
  | lbracket
  | rbracket
  | lparen
  | rparen
  | zero

namespace Mark

def token : Mark → Token
  | plus => .plus
  | minus => .minus
  | star => .star
  | lbracket => .lbracket
  | rbracket => .rbracket
  | lparen => .lparen
  | rparen => .rparen
  | zero => .int 0

/-- The blank ends the number, whatever comes next. -/
def text : Mark → List Char
  | plus => ['+']
  | minus => ['-']
  | star => ['*']
  | lbracket => ['[']
  | rbracket => [']']
  | lparen => ['(']
  | rparen => [')']
  | zero => ['0', ' ']

def lexeme (m : Mark) : Lexeme := ⟨1, m.token⟩

end Mark

theorem lexemesFrom_zero (line : Nat) (rest : List Char) :
    lexemesFrom line ('0' :: ' ' :: rest) =
      (lexemesFrom line rest).map (⟨line, .int 0⟩ :: ·) := by
  have hblank : lexemesFrom line (' ' :: rest) = lexemesFrom line rest := by
    rw [lexemesFrom, if_neg (by decide), if_pos (by decide)]
  have hzero : Element.ofText? .i64 ['0'] = some 0 := by decide +kernel
  have hnot : Text.isBlank '0' = false := by decide
  have hdigit : Char.isDigit '0' = true ∧ Char.isDigit ' ' = false := by decide
  rw [lexemesFrom]
  simp [hnot, hdigit, hzero, hblank]

theorem lexemesFrom_mark (m : Mark) (rest : List Char) :
    lexemesFrom 1 (m.text ++ rest) = (lexemesFrom 1 rest).map (m.lexeme :: ·) := by
  cases m with
  | zero => exact lexemesFrom_zero 1 rest
  | _ => exact lexemesFrom_symbol rfl 1 rest

theorem lexemes_marks (ms : List Mark) :
    lexemes (ms.flatMap Mark.text) = .ok (ms.map Mark.lexeme ++ [⟨1, .eof⟩]) := by
  unfold lexemes
  induction ms with
  | nil =>
      rw [List.flatMap_nil, lexemesFrom]
      rfl
  | cons m ms ih =>
      rw [List.flatMap_cons, lexemesFrom_mark, ih]
      rfl

theorem reads_zero_signed (depth : Nat) {rest : List Lexeme} (h : tokenOf rest ≠ .lbracket) :
    Reads .signed depth (Mark.zero.lexeme :: rest) (.int 0) rest :=
  .bare nofun nofun (.indexed .int (.indexEnd h))

theorem reads_zero_operand (level : Level) (depth : Nat) {rest : List Lexeme}
    (h : EndsBelow level.rank (tokenOf rest)) :
    Reads (.operand level) depth (Mark.zero.lexeme :: rest) (.int 0) rest := by
  have hs := reads_zero_signed depth h.1
  cases level with
  | sum => exact .factor (.chain (.atom hs) (.chainEnd (h.2 .product (by decide))))
  | product => exact .atom hs

theorem reads_zero (depth : Nat) {rest : List Lexeme} (h : EndsBelow 3 (tokenOf rest)) :
    Reads (.chain .sum) depth (Mark.zero.lexeme :: rest) (.int 0) rest :=
  .chain (reads_zero_operand .sum depth (h.mono (by decide))) (.chainEnd (h.2 .sum (by decide)))

/-- `n` positions after a primary expression. -/
def positions (n : Nat) : List Mark := (List.replicate n [.lbracket, .zero, .rbracket]).flatten

/-- An operator of each level. -/
def Level.op : Level → BinaryOp
  | sum => .add
  | product => .mul

def Level.mark : Level → Mark
  | sum => .plus
  | product => .star

theorem Level.operator?_mark (level : Level) :
    level.operator? level.mark.token = some level.op := by
  cases level <;> rfl

theorem Level.endsBelow_mark (level : Level) : EndsBelow level.rank level.mark.token := by
  refine ⟨by cases level <;> decide, fun l hl => ?_⟩
  cases level <;> cases l <;> first | rfl | exact absurd hl (by decide)

/-- `n` further operands of a chain. -/
def Level.operands (level : Level) (n : Nat) : List Mark :=
  (List.replicate n [level.mark, .zero]).flatten

theorem reads_positions (n : Nat) {depth : Nat} (target : Expr) {rest : List Lexeme}
    (hd : depth + n ≤ depthLimit) (h : tokenOf rest ≠ .lbracket) :
    Reads (.indexTail target) depth ((positions n).map Mark.lexeme ++ rest)
      ((Expr.index · (.int 0))^[n] target) rest := by
  induction n generalizing depth target with
  | zero => exact .indexEnd h
  | succ n ih =>
      have hz : Reads (.chain .sum) (depth + 1)
          (Mark.zero.lexeme :: Mark.rbracket.lexeme :: ((positions n).map Mark.lexeme ++ rest))
          (.int 0) _ := reads_zero _ (endsBelow_of_close (.inl rfl) 3)
      exact .indexNext (by omega) hz (ih (.index target (.int 0)) (by omega))

theorem reads_operands (level : Level) (n : Nat) {depth : Nat} (lhs : Expr) {rest : List Lexeme}
    (hd : depth + n ≤ depthLimit) (h : EndsBelow (level.rank + 1) (tokenOf rest)) :
    Reads (.chainTail level lhs) depth ((level.operands n).map Mark.lexeme ++ rest)
      ((Expr.binary level.op · (.int 0))^[n] lhs) rest := by
  induction n generalizing depth lhs with
  | zero => exact .chainEnd (h.2 level (Nat.lt_succ_self _))
  | succ n ih =>
      refine .chainNext level.operator?_mark (by omega) (reads_zero_operand level _ ?_)
        (ih (.binary level.op lhs (.int 0)) (by omega))
      cases n with
      | zero => exact h.mono (Nat.le_succ _)
      | succ n => exact level.endsBelow_mark

theorem depth_iterate {f : Expr → Expr} (hf : ∀ e, (f e).depth = e.depth + 1) (n : Nat)
    (e : Expr) : (f^[n] e).depth = e.depth + n := by
  induction n generalizing e with
  | zero => rfl
  | succ n ih =>
      rw [Function.iterate_succ_apply, ih, hf]
      omega

/-- The marks stand for `e` wherever `k` levels are left and nothing goes on with it. -/
def Stands (k : Nat) (ms : List Mark) (e : Expr) : Prop :=
  ∀ depth rest, depth + k ≤ depthLimit → EndsBelow 3 (tokenOf rest) →
    Reads (.chain .sum) depth (ms.map Mark.lexeme ++ rest) e rest

theorem stands_zero : Stands 0 [.zero] (.int 0) := fun depth _ _ h => reads_zero depth h

/-- Parentheses, and after them `a` positions, `b` factors and `c` terms. -/
def enclosed (a b c : Nat) (ms : List Mark) : List Mark :=
  .lparen :: ms ++ .rparen :: positions a ++ Level.product.operands b ++ Level.sum.operands c

/-- The tree of `enclosed`. -/
def piled (a b c : Nat) (e : Expr) : Expr :=
  (Expr.binary Level.sum.op · (.int 0))^[c]
    ((Expr.binary Level.product.op · (.int 0))^[b] ((Expr.index · (.int 0))^[a] e))

theorem depth_piled (a b c : Nat) (e : Expr) : (piled a b c e).depth = e.depth + a + b + c := by
  have hf : ∀ e : Expr, (e.index (.int 0)).depth = e.depth + 1 := by
    intro e
    simp [Expr.depth]
  have hg : ∀ op (e : Expr), (Expr.binary op e (.int 0)).depth = e.depth + 1 := by
    intro op e
    simp [Expr.depth]
  rw [piled, depth_iterate (hg _), depth_iterate (hg _), depth_iterate hf]

theorem EndsBelow.operands {level : Level} {r : Nat} {rest : List Lexeme}
    (h : EndsBelow r (tokenOf rest)) (hr : r ≤ level.rank) (n : Nat) :
    EndsBelow r (tokenOf ((level.operands n).map Mark.lexeme ++ rest)) := by
  cases n with
  | zero => exact h
  | succ n => exact level.endsBelow_mark.mono hr

/-- One level more allows parentheses, and after them as many positions, factors and terms as
    there are levels. -/
theorem Stands.enclose {k : Nat} {ms : List Mark} {e : Expr} (h : Stands k ms e) {a b c : Nat}
    (ha : a ≤ k + 1) (hb : b ≤ k + 1) (hc : c ≤ k + 1) :
    Stands (k + 1) (enclosed a b c ms) (piled a b c e) := by
  intro depth rest hd hrest
  have hsum : EndsBelow 2 (tokenOf ((Level.sum.operands c).map Mark.lexeme ++ rest)) :=
    (hrest.mono (by decide)).operands (by decide) c
  have hproduct : EndsBelow 1 (tokenOf ((Level.product.operands b).map Mark.lexeme ++
      ((Level.sum.operands c).map Mark.lexeme ++ rest))) :=
    (hsum.mono (by decide)).operands (by decide) b
  have hprimary : Reads .primary depth (Mark.lparen.lexeme :: (ms.map Mark.lexeme ++
      Mark.rparen.lexeme :: ((positions a).map Mark.lexeme ++
        ((Level.product.operands b).map Mark.lexeme ++
          ((Level.sum.operands c).map Mark.lexeme ++ rest))))) e _ :=
    .paren (by omega) (h (depth + 1) _ (by omega) (endsBelow_of_close (.inr (.inl rfl)) 3))
  have hindexed := Reads.indexed hprimary (reads_positions a e (by omega) hproduct.1)
  have hsigned := Reads.bare (by nofun) (by nofun) hindexed
  have hfactors := Reads.chain (.atom hsigned) (reads_operands .product b _ (by omega) hsum)
  have hterms := Reads.chain (.factor hfactors) (reads_operands .sum c _ (by omega) hrest)
  simpa [enclosed, piled] using hterms

theorem exists_stands (k : Nat) {d : Nat} (hd : d ≤ reach (k + 1)) :
    ∃ ms e, Stands k ms e ∧ e.depth = d := by
  induction k generalizing d with
  | zero => exact ⟨_, _, stands_zero, (Nat.le_zero.1 hd).symm⟩
  | succ k ih =>
      -- What the sum in the parentheses cannot reach is shared out among what follows them.
      obtain ⟨ms, e, hs, he⟩ := ih (Nat.min_le_right d (reach (k + 1)))
      rw [reach] at hd
      obtain ⟨a, b, c, ha, hb, hc, habc⟩ : ∃ a b c, a ≤ k + 1 ∧ b ≤ k + 1 ∧ c ≤ k + 1 ∧
          a + b + c = d - reach (k + 1) :=
        ⟨min (k + 1) (d - reach (k + 1)), min (k + 1) (d - reach (k + 1) - (k + 1)),
          d - reach (k + 1) - 2 * (k + 1), by omega, by omega, by omega, by omega⟩
      refine ⟨_, _, hs.enclose ha hb hc, ?_⟩
      rw [depth_piled, he]
      omega

/-! ## Depths that occur -/

theorem statement_of_chain {ts : List Lexeme} {e : Expr}
    {out : { rest : List Lexeme // rest.length < ts.length }}
    (h : chain .sum 0 ts = .ok (e, out)) (hp : tokenOf ts ≠ .persistent)
    (hi : ∀ x, tokenOf ts ≠ .ident x) : statement ts = .ok (⟨lineOf ts, .display e⟩, out) := by
  rw [statement_eq_display hp, h]
  intro _ x _ _ h'
  subst h'
  exact hi x rfl

theorem Mark.token_ne (m : Mark) :
    m.token ≠ .persistent ∧ (∀ x, m.token ≠ .ident x) ∧ m.token ≠ .newline ∧ m.token ≠ .eof := by
  cases m <;> simp [Mark.token]

/-- A source of marks that stand for an expression displays it. -/
theorem parse_marks {ms : List Mark} {e : Expr}
    (h : Reads (.chain .sum) 0 (ms.map Mark.lexeme ++ [⟨1, .eof⟩]) e [⟨1, .eof⟩]) :
    parse (ms.flatMap Mark.text) = .ok [⟨1, .display e⟩] := by
  obtain ⟨hlen, hc⟩ := h.yields
  cases ms with
  | nil => cases Nat.lt_irrefl _ hlen
  | cons m ms =>
      obtain ⟨hp, hi, hn, he⟩ := m.token_ne
      have hs : statement (m.lexeme :: (ms.map Mark.lexeme ++ [(⟨1, .eof⟩ : Lexeme)])) =
          .ok (⟨1, .display e⟩, ⟨[⟨1, .eof⟩], hlen⟩) := statement_of_chain hc hp hi
      rw [parse, lexemes_marks]
      change statements (m.lexeme :: (ms.map Mark.lexeme ++ [⟨1, .eof⟩])) = _
      rw [statements]
      · simp only [hs]
        rw [if_pos (.inr rfl), statements]
        rfl
      · intro _ hm
        exact he (congrArg Lexeme.token hm)
      · intro _ hm
        exact hn (congrArg Lexeme.token hm)

theorem le_reach_iff (k d : Nat) : d ≤ reach (k + 1) ↔ d ≤ 3 * k * (k + 1) / 2 := by
  have h := two_mul_reach k
  omega

theorem exists_chain_iff (depth d : Nat) :
    (∃ (ts : List Lexeme) (out : Parsed ts), chain .sum depth ts = .ok out ∧ out.1.depth = d) ↔
      d ≤ reach (depthLimit - depth + 1) := by
  constructor
  · intro h
    obtain ⟨ts, ⟨e, rest, hrest⟩, hc, rfl⟩ := h
    have h := (reads_chain ⟨hrest, hc⟩).depth_le
    change e.depth ≤ _
    simp only [Goal.bound, Level.rank] at h
    rw [reach]
    omega
  · intro hd
    by_cases hle : depth ≤ depthLimit
    · obtain ⟨ms, e, hs, he⟩ := exists_stands _ hd
      obtain ⟨hlen, hc⟩ := (hs depth [] (by omega) (endsBelow_of_close (.inr (.inr rfl)) 3)).yields
      exact ⟨_, _, hc, he⟩
    · -- Past the limit only leaves are read.
      rw [Nat.sub_eq_zero_of_le (by omega)] at hd
      have hz : Reads (.chain .sum) depth [Mark.zero.lexeme] (.int 0) [] :=
        reads_zero depth (endsBelow_of_close (.inr (.inr rfl)) 3)
      obtain ⟨hlen, hc⟩ := hz.yields
      exact ⟨_, _, hc, (Nat.le_zero.1 hd).symm⟩

theorem exists_parse_iff (d : Nat) :
    (∃ source program, parse source = .ok program ∧ ∃ e ∈ expressions program, e.depth = d) ↔
      d ≤ reach (depthLimit + 1) := by
  constructor
  · intro h
    obtain ⟨source, program, hp, e, he, rfl⟩ := h
    obtain ⟨ts, rest, h⟩ := reads_of_parse hp he
    obtain ⟨hlen, hc⟩ := h.yields
    exact (exists_chain_iff 0 _).1 ⟨ts, _, hc, rfl⟩
  · intro hd
    obtain ⟨ms, e, hs, he⟩ := exists_stands _ hd
    have h := parse_marks (hs 0 [⟨1, .eof⟩] (by decide) (endsBelow_of_close (.inr (.inr rfl)) 3))
    exact ⟨_, _, h, e, List.mem_cons_self, he⟩

theorem reach_le_depthLimit_iff (k : Nat) : reach (k + 1) ≤ depthLimit ↔ k ≤ 12 := by
  have h := two_mul_reach k
  unfold depthLimit
  constructor
  · intro hk
    by_contra hlt
    have hmul : 13 * 14 ≤ k * (k + 1) := Nat.mul_le_mul (by omega) (by omega)
    rw [Nat.mul_assoc] at h
    omega
  · intro hk
    have hmul : k * (k + 1) ≤ 12 * 13 := Nat.mul_le_mul hk (by omega)
    rw [Nat.mul_assoc] at h
    omega

/-- The depths of accepted expressions. With `k` levels left an expression can have just the
    depths up to `3 * k * (k + 1) / 2`, and a program those with all levels left, far beyond
    `depthLimit`. What is read with some levels left is read the same way at the start of a
    statement, and the limit bounds its depth exactly if at most 12 levels are left. -/
theorem accepted_depth_iff (depth d : Nat) :
    ((∃ (ts : List Lexeme) (out : Parsed ts), chain .sum depth ts = .ok out ∧
        out.1.depth = d) ↔
      d ≤ 3 * (depthLimit - depth) * (depthLimit - depth + 1) / 2) ∧
    ((∃ source program, parse source = .ok program ∧ ∃ e ∈ expressions program, e.depth = d) ↔
      d ≤ 3 * depthLimit * (depthLimit + 1) / 2) ∧
    (∀ (ts : List Lexeme) (out : Parsed ts), chain .sum depth ts = .ok out →
      chain .sum 0 ts = .ok out) ∧
    ((∀ (ts : List Lexeme) (out : Parsed ts), chain .sum depth ts = .ok out →
        out.1.depth ≤ depthLimit) ↔
      depthLimit ≤ depth + 12) := by
  refine ⟨?_, ?_, ?_, ?_⟩
  · rw [exists_chain_iff, le_reach_iff]
  · rw [exists_parse_iff, le_reach_iff]
  · intro ts h hc
    obtain ⟨e, rest, hrest⟩ := h
    obtain ⟨_, h⟩ := ((reads_chain ⟨hrest, hc⟩).mono (Nat.zero_le depth)).yields
    exact h
  · have hk := reach_le_depthLimit_iff (depthLimit - depth)
    constructor
    · intro h
      obtain ⟨ts, out, hc, hout⟩ := (exists_chain_iff depth _).2 (Nat.le_refl _)
      have hle := h ts out hc
      omega
    · intro hd ts out hc
      have hle := (exists_chain_iff depth _).1 ⟨ts, out, hc, rfl⟩
      omega

theorem reads_minus (n : Nat) {depth : Nat} {ts rest : List Lexeme} {e : Expr}
    (h : Reads .signed (depth + n) ts e rest) (hd : depth + n ≤ depthLimit) :
    Reads .signed depth ((List.replicate n Mark.minus).map Mark.lexeme ++ ts) (Expr.neg^[n] e)
      rest := by
  induction n generalizing depth with
  | zero => exact h
  | succ n ih =>
      rw [Function.iterate_succ_apply']
      refine .neg (by omega) (ih ?_ (by omega))
      rwa [Nat.add_right_comm]

/-- As many signs as the limit allows, and a term after them. -/
theorem depthLimit_lt_depth_signs :
    ∃ program, parse (List.replicate depthLimit '-' ++ ['0', ' ', '+', '0', ' ']) = .ok program ∧
      ∃ e ∈ expressions program, depthLimit < e.depth := by
  -- The term is read at nesting 0, where the signs no longer count.
  have hz : Reads .signed (0 + depthLimit)
      (Mark.zero.lexeme :: ((Level.sum.operands 1).map Mark.lexeme ++ [⟨1, .eof⟩])) (.int 0) _ :=
    reads_zero_signed _ nofun
  have hsigns := reads_minus depthLimit hz (by decide)
  have hfactor := Reads.chain (.atom hsigns) (.chainEnd rfl)
  have hsum := Reads.chain (.factor hfactor)
    (reads_operands .sum 1 _ (by decide) (endsBelow_of_close (.inr (.inr rfl)) 3))
  have hparse : parse ((List.replicate depthLimit Mark.minus ++
      Mark.zero :: Level.sum.operands 1).flatMap Mark.text) = _ :=
    parse_marks (by simpa using hsum)
  have htext : (List.replicate depthLimit Mark.minus ++
      Mark.zero :: Level.sum.operands 1).flatMap Mark.text =
      List.replicate depthLimit '-' ++ ['0', ' ', '+', '0', ' '] := by
    simp [Level.operands, Level.mark, Mark.text, List.flatMap_replicate]
  refine ⟨_, htext ▸ hparse, _, List.mem_cons_self, ?_⟩
  have hdepth := depth_iterate (f := Expr.neg) (fun _ => rfl) depthLimit (.int 0)
  simp [Expr.depth, hdepth]

end Gridscript.Script
