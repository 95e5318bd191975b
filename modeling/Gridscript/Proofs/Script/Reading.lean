/-
  What the readers of expressions do when they succeed.

  `Reads` has one rule for each way in which a reader can come to an expression and the tokens
  after it, with the nesting at that place. The readers give exactly what the rules give
  (`reads_iff`), so facts about accepted expressions are shown by induction over the rules and
  do not go back to the readers.
-/
import Gridscript.Proofs.Outcome
import Gridscript.Script.Program

namespace Gridscript.Script

/-- What is asked for: each of the readers with its own arguments. -/
inductive Goal where
  | chain (level : Level)
  | operand (level : Level)
  | chainTail (level : Level) (lhs : Expr)
  | signed
  | indexed
  | indexTail (target : Expr)
  | primary

/-- `Reads goal depth ts e rest`: at nesting `depth` the tokens `ts` start with the expression
    `e` that is asked for, and `rest` follows it. -/
inductive Reads : Goal → Nat → List Lexeme → Expr → List Lexeme → Prop
  | chain {level : Level} {depth : Nat} {ts mid rest : List Lexeme} {lhs e : Expr}
      (hl : Reads (.operand level) depth ts lhs mid)
      (ht : Reads (.chainTail level lhs) depth mid e rest) : Reads (.chain level) depth ts e rest
  | factor {depth : Nat} {ts rest : List Lexeme} {e : Expr}
      (h : Reads (.chain .product) depth ts e rest) : Reads (.operand .sum) depth ts e rest
  | atom {depth : Nat} {ts rest : List Lexeme} {e : Expr}
      (h : Reads .signed depth ts e rest) : Reads (.operand .product) depth ts e rest
  | chainEnd {level : Level} {depth : Nat} {lhs : Expr} {ts : List Lexeme}
      (hop : level.operator? (tokenOf ts) = none) : Reads (.chainTail level lhs) depth ts lhs ts
  | chainNext {level : Level} {depth : Nat} {lhs rhs e : Expr} {t : Lexeme}
      {ts mid rest : List Lexeme} {op : BinaryOp} (hop : level.operator? t.token = some op)
      (hd : depth < depthLimit) (hr : Reads (.operand level) (depth + 1) ts rhs mid)
      (ht : Reads (.chainTail level (.binary op lhs rhs)) (depth + 1) mid e rest) :
      Reads (.chainTail level lhs) depth (t :: ts) e rest
  | neg {depth line : Nat} {ts rest : List Lexeme} {e : Expr} (hd : depth < depthLimit)
      (h : Reads .signed (depth + 1) ts e rest) :
      Reads .signed depth (⟨line, .minus⟩ :: ts) (.neg e) rest
  | transpose {depth line : Nat} {ts rest : List Lexeme} {e : Expr} (hd : depth < depthLimit)
      (h : Reads .signed (depth + 1) ts e rest) :
      Reads .signed depth (⟨line, .transpose⟩ :: ts) (.transpose e) rest
  | bare {depth : Nat} {ts rest : List Lexeme} {e : Expr} (hm : tokenOf ts ≠ .minus)
      (ht : tokenOf ts ≠ .transpose) (h : Reads .indexed depth ts e rest) :
      Reads .signed depth ts e rest
  | indexed {depth : Nat} {ts mid rest : List Lexeme} {target e : Expr}
      (hp : Reads .primary depth ts target mid)
      (ht : Reads (.indexTail target) depth mid e rest) : Reads .indexed depth ts e rest
  | indexEnd {depth : Nat} {target : Expr} {ts : List Lexeme} (hb : tokenOf ts ≠ .lbracket) :
      Reads (.indexTail target) depth ts target ts
  | indexNext {depth line line' : Nat} {target position e : Expr} {ts mid rest : List Lexeme}
      (hd : depth < depthLimit)
      (hp : Reads (.chain .sum) (depth + 1) ts position (⟨line', .rbracket⟩ :: mid))
      (ht : Reads (.indexTail (.index target position)) (depth + 1) mid e rest) :
      Reads (.indexTail target) depth (⟨line, .lbracket⟩ :: ts) e rest
  | int {depth line : Nat} {n : Scalar} {rest : List Lexeme} :
      Reads .primary depth (⟨line, .int n⟩ :: rest) (.int n) rest
  | var {depth line : Nat} {x : String} {rest : List Lexeme} :
      Reads .primary depth (⟨line, .ident x⟩ :: rest) (.var x) rest
  | paren {depth line line' : Nat} {e : Expr} {ts rest : List Lexeme} (hd : depth < depthLimit)
      (h : Reads (.chain .sum) (depth + 1) ts e (⟨line', .rparen⟩ :: rest)) :
      Reads .primary depth (⟨line, .lparen⟩ :: ts) e rest

/-! ## The readers one by one -/

/-- The outcome of a reader is an expression and what follows it. -/
def Yields {P : List Lexeme → Prop} (x : Except Fault (Expr × { rest : List Lexeme // P rest }))
    (e : Expr) (rest : List Lexeme) : Prop :=
  ∃ h, x = .ok (e, ⟨rest, h⟩)

@[simp]
theorem not_yields_error {P : List Lexeme → Prop} (f : Fault) (e : Expr) (rest : List Lexeme) :
    ¬ Yields (.error f : Except Fault (Expr × { rest : List Lexeme // P rest })) e rest := by
  intro h
  obtain ⟨_, h⟩ := h
  cases h

@[simp]
theorem yields_ok_iff {P : List Lexeme → Prop} (out : Expr × { rest : List Lexeme // P rest })
    (e : Expr) (rest : List Lexeme) :
    Yields (.ok out) e rest ↔ out.1 = e ∧ out.2.val = rest := by
  constructor
  · intro h
    obtain ⟨_, h⟩ := h
    cases h
    exact ⟨rfl, rfl⟩
  · intro h'
    obtain ⟨rfl, rfl⟩ := h'
    exact ⟨out.2.property, rfl⟩

theorem Yields.holds {P : List Lexeme → Prop}
    {x : Except Fault (Expr × { rest : List Lexeme // P rest })} {e : Expr} {rest : List Lexeme}
    (h : Yields x e rest) : P rest := by
  obtain ⟨hr, -⟩ := h
  exact hr

theorem deepen_of_lt {depth : Nat} (hd : depth < depthLimit) (ts : List Lexeme) :
    deepen depth ts = .ok (depth + 1) := by
  rw [deepen, if_pos hd]

theorem deepen_of_le {depth : Nat} (hd : ¬ depth < depthLimit) (ts : List Lexeme) :
    deepen depth ts = .error ⟨lineOf ts, .badSyntax .tooDeep⟩ := by
  rw [deepen, if_neg hd]

variable {level : Level} {depth : Nat} {ts rest : List Lexeme} {e lhs target : Expr}

theorem yields_chain_iff :
    Yields (chain level depth ts) e rest ↔
      ∃ a mid, Yields (operand level depth ts) a mid ∧
        Yields (chainTail level depth a mid) e rest := by
  rw [chain]
  cases ho : operand level depth ts with
  | error f => simp
  | ok out =>
      obtain ⟨a, mid, hmid⟩ := out
      cases ht : chainTail level depth a mid with
      | error f => simp [and_assoc, ht]
      | ok out => simp [and_assoc, ht]

theorem yields_chainTail_cons_iff {t : Lexeme} {op : BinaryOp}
    (hop : level.operator? t.token = some op) :
    Yields (chainTail level depth lhs (t :: ts)) e rest ↔
      depth < depthLimit ∧ ∃ rhs mid, Yields (operand level (depth + 1) ts) rhs mid ∧
        Yields (chainTail level (depth + 1) (.binary op lhs rhs) mid) e rest := by
  rw [chainTail]
  by_cases hd : depth < depthLimit
  · simp only [hop, deepen_of_lt hd]
    cases ho : operand level (depth + 1) ts with
    | error f => simp
    | ok out =>
        obtain ⟨rhs, mid, hmid⟩ := out
        cases ht : chainTail level (depth + 1) (.binary op lhs rhs) mid with
        | error f => simp [and_assoc, ht]
        | ok out => simp [and_assoc, ht, hd]
  · simp only [hop, deepen_of_le hd]
    simp [hd]

theorem yields_chainTail_end_iff (hop : level.operator? (tokenOf ts) = none) :
    Yields (chainTail level depth lhs ts) e rest ↔ lhs = e ∧ ts = rest := by
  cases ts with
  | nil => rw [chainTail, yields_ok_iff]
  | cons t ts =>
      have hop' : level.operator? t.token = none := hop
      rw [chainTail]
      simp only [hop']
      rw [yields_ok_iff]

/-- A sign is read by `wrap`, whichever of the two it is. -/
theorem yields_signed_cons_iff {t : Lexeme} {wrap : Expr → Expr}
    (ht : t.token = .minus ∧ wrap = .neg ∨ t.token = .transpose ∧ wrap = .transpose) :
    Yields (signed depth (t :: ts)) e rest ↔
      depth < depthLimit ∧ ∃ a, Yields (signed (depth + 1) ts) a rest ∧ wrap a = e := by
  obtain ⟨line, token⟩ := t
  obtain ⟨rfl, rfl⟩ | ⟨rfl, rfl⟩ := ht <;>
  · rw [signed]
    by_cases hd : depth < depthLimit
    · simp only [deepen_of_lt hd]
      cases hs : signed (depth + 1) ts with
      | error f => simp
      | ok out => simp [hd, and_comm, and_assoc]
    · simp only [deepen_of_le hd]
      simp [hd]

theorem signed_eq_indexed (hm : tokenOf ts ≠ .minus) (ht : tokenOf ts ≠ .transpose) :
    signed depth ts = indexed depth ts := by
  rw [signed]
  · intro line rest h
    subst h
    exact hm rfl
  · intro line rest h'
    subst h'
    exact ht rfl

theorem yields_indexed_iff :
    Yields (indexed depth ts) e rest ↔
      ∃ a mid, Yields (primary depth ts) a mid ∧ Yields (indexTail depth a mid) e rest := by
  rw [indexed]
  cases hp : primary depth ts with
  | error f => simp
  | ok out =>
      obtain ⟨a, mid, hmid⟩ := out
      cases ht : indexTail depth a mid with
      | error f => simp [and_assoc, ht]
      | ok out => simp [and_assoc, ht]

theorem yields_indexTail_end_iff (hb : tokenOf ts ≠ .lbracket) :
    Yields (indexTail depth target ts) e rest ↔ target = e ∧ ts = rest := by
  rw [indexTail, yields_ok_iff]
  intro line rest h
  subst h
  exact hb rfl

theorem expect_cons (token : Token) (wanted : Wanted) (line : Nat) (mid : List Lexeme) :
    expect token wanted (⟨line, token⟩ :: mid) = .ok ⟨mid, Nat.lt_succ_self _⟩ := by
  rw [expect, if_pos rfl]

theorem expect_of_ne {token : Token} (wanted : Wanted) {mid : List Lexeme}
    (h : ∀ line after, mid ≠ ⟨line, token⟩ :: after) :
    expect token wanted mid = .error (missing wanted mid) := by
  cases mid with
  | nil => rfl
  | cons t mid =>
      rw [expect, if_neg]
      intro h'
      subst h'
      exact h t.line mid rfl

theorem yields_indexTail_cons_iff {line : Nat} :
    Yields (indexTail depth target (⟨line, .lbracket⟩ :: ts)) e rest ↔
      depth < depthLimit ∧ ∃ position line' mid,
        Yields (chain .sum (depth + 1) ts) position (⟨line', .rbracket⟩ :: mid) ∧
        Yields (indexTail (depth + 1) (.index target position) mid) e rest := by
  rw [indexTail]
  by_cases hd : depth < depthLimit
  · simp only [deepen_of_lt hd]
    cases hc : chain .sum (depth + 1) ts with
    | error f => simp
    | ok out =>
        obtain ⟨position, mid, hmid⟩ := out
        by_cases hx : ∃ line' after, mid = ⟨line', .rbracket⟩ :: after
        · obtain ⟨line', after, rfl⟩ := hx
          simp only [expect_cons]
          cases ht : indexTail (depth + 1) (.index target position) after with
          | error f => simp [and_assoc, ht]
          | ok out => simp [and_assoc, ht, hd]
        · simp only [not_exists] at hx
          simp only [expect_of_ne _ hx]
          simp [hx]
  · simp only [deepen_of_le hd]
    simp [hd]

theorem yields_primary_paren_iff {line : Nat} :
    Yields (primary depth (⟨line, .lparen⟩ :: ts)) e rest ↔
      depth < depthLimit ∧ ∃ line',
        Yields (chain .sum (depth + 1) ts) e (⟨line', .rparen⟩ :: rest) := by
  rw [primary]
  by_cases hd : depth < depthLimit
  · simp only [deepen_of_lt hd]
    cases hc : chain .sum (depth + 1) ts with
    | error f => simp
    | ok out =>
        obtain ⟨a, mid, hmid⟩ := out
        by_cases hx : ∃ line' after, mid = ⟨line', .rparen⟩ :: after
        · obtain ⟨line', after, rfl⟩ := hx
          simp only [expect_cons]
          simp [hd]
        · simp only [not_exists] at hx
          simp only [expect_of_ne _ hx]
          simp [hx]
  · simp only [deepen_of_le hd]
    simp [hd]

theorem primary_eq_error
    (h : (∀ n, tokenOf ts ≠ .int n) ∧ (∀ x, tokenOf ts ≠ .ident x) ∧ tokenOf ts ≠ .lparen) :
    primary depth ts = .error (missing .expression ts) := by
  obtain ⟨hi, hv, hp⟩ := h
  rw [primary]
  · intro line n rest h'
    subst h'
    exact hi n rfl
  · intro line x rest heq
    subst heq
    exact hv x rfl
  · intro line rest heq
    subst heq
    exact hp rfl

theorem not_yields_primary
    (h : (∀ n, tokenOf ts ≠ .int n) ∧ (∀ x, tokenOf ts ≠ .ident x) ∧ tokenOf ts ≠ .lparen) :
    ¬ Yields (primary depth ts) e rest := by
  rw [primary_eq_error h]
  exact not_yields_error _ _ _

/-! ## The readers together -/

/-- What the reader that is asked for gives. -/
def Goal.Yields : Goal → Nat → List Lexeme → Expr → List Lexeme → Prop
  | .chain level, depth, ts => Script.Yields (Script.chain level depth ts)
  | .operand level, depth, ts => Script.Yields (Script.operand level depth ts)
  | .chainTail level lhs, depth, ts => Script.Yields (Script.chainTail level depth lhs ts)
  | .signed, depth, ts => Script.Yields (Script.signed depth ts)
  | .indexed, depth, ts => Script.Yields (Script.indexed depth ts)
  | .indexTail target, depth, ts => Script.Yields (Script.indexTail depth target ts)
  | .primary, depth, ts => Script.Yields (Script.primary depth ts)

theorem Reads.yields {goal : Goal} (h : Reads goal depth ts e rest) :
    goal.Yields depth ts e rest := by
  induction h with
  | chain _ _ hl ht => exact yields_chain_iff.2 ⟨_, _, hl, ht⟩
  | factor _ h => simpa only [Goal.Yields, operand] using h
  | atom _ h => simpa only [Goal.Yields, operand] using h
  | chainEnd hop => exact (yields_chainTail_end_iff hop).2 ⟨rfl, rfl⟩
  | chainNext hop hd _ _ hr ht => exact (yields_chainTail_cons_iff hop).2 ⟨hd, _, _, hr, ht⟩
  | neg hd _ h => exact (yields_signed_cons_iff (.inl ⟨rfl, rfl⟩)).2 ⟨hd, _, h, rfl⟩
  | transpose hd _ h => exact (yields_signed_cons_iff (.inr ⟨rfl, rfl⟩)).2 ⟨hd, _, h, rfl⟩
  | bare hm ht _ h => simpa only [Goal.Yields, signed_eq_indexed hm ht] using h
  | indexed _ _ hp ht => exact yields_indexed_iff.2 ⟨_, _, hp, ht⟩
  | indexEnd hb => exact (yields_indexTail_end_iff hb).2 ⟨rfl, rfl⟩
  | indexNext hd _ _ hp ht => exact yields_indexTail_cons_iff.2 ⟨hd, _, _, _, hp, ht⟩
  | int => exact ⟨Nat.lt_succ_self _, by rw [primary]⟩
  | var => exact ⟨Nat.lt_succ_self _, by rw [primary]⟩
  | paren hd _ h => exact yields_primary_paren_iff.2 ⟨hd, _, h⟩

-- The recursion is that of the readers: a part that follows another one is read from fewer
-- tokens, which `Yields.holds` gives, and every other call goes down in rank.
mutual

theorem reads_chain {level : Level} {depth : Nat} {ts rest : List Lexeme} {e : Expr}
    (h : Yields (chain level depth ts) e rest) : Reads (.chain level) depth ts e rest := by
  obtain ⟨a, mid, hl, ht⟩ := yields_chain_iff.1 h
  have hmid := hl.holds
  exact .chain (reads_operand hl) (reads_chainTail ht)
termination_by (ts.length, 2 * level.rank + 2)

theorem reads_operand {level : Level} {depth : Nat} {ts rest : List Lexeme} {e : Expr}
    (h : Yields (operand level depth ts) e rest) : Reads (.operand level) depth ts e rest := by
  match level with
  | .sum =>
      rw [operand] at h
      exact .factor (reads_chain h)
  | .product =>
      rw [operand] at h
      exact .atom (reads_signed h)
termination_by (ts.length, 2 * level.rank + 1)
decreasing_by all_goals exact Prod.Lex.right _ (by decide)

theorem reads_chainTail {level : Level} {depth : Nat} {lhs : Expr} {ts rest : List Lexeme}
    {e : Expr} (h : Yields (chainTail level depth lhs ts) e rest) :
    Reads (.chainTail level lhs) depth ts e rest := by
  cases hop : level.operator? (tokenOf ts) with
  | none =>
      obtain ⟨rfl, rfl⟩ := (yields_chainTail_end_iff hop).1 h
      exact .chainEnd hop
  | some op =>
      match ts with
      | [] => cases level <;> cases hop
      | t :: more =>
          obtain ⟨hd, rhs, mid, hr, ht⟩ := (yields_chainTail_cons_iff hop).1 h
          have hmid := hr.holds
          exact .chainNext hop hd (reads_operand hr) (reads_chainTail ht)
termination_by (ts.length, 0)

theorem reads_signed {depth : Nat} {ts rest : List Lexeme} {e : Expr}
    (h : Yields (signed depth ts) e rest) : Reads .signed depth ts e rest := by
  by_cases hm : tokenOf ts = .minus
  · match ts with
    | ⟨line, _⟩ :: more =>
        cases hm
        obtain ⟨hd, a, ha, rfl⟩ := (yields_signed_cons_iff (.inl ⟨rfl, rfl⟩)).1 h
        exact .neg hd (reads_signed ha)
  · by_cases ht : tokenOf ts = .transpose
    · match ts with
      | ⟨line, _⟩ :: more =>
          cases ht
          obtain ⟨hd, a, ha, rfl⟩ := (yields_signed_cons_iff (.inr ⟨rfl, rfl⟩)).1 h
          exact .transpose hd (reads_signed ha)
    · rw [signed_eq_indexed hm ht] at h
      exact .bare hm ht (reads_indexed h)
termination_by (ts.length, 2)

theorem reads_indexed {depth : Nat} {ts rest : List Lexeme} {e : Expr}
    (h : Yields (indexed depth ts) e rest) : Reads .indexed depth ts e rest := by
  obtain ⟨a, mid, hp, ht⟩ := yields_indexed_iff.1 h
  have hmid := hp.holds
  exact .indexed (reads_primary hp) (reads_indexTail ht)
termination_by (ts.length, 1)

theorem reads_indexTail {depth : Nat} {target : Expr} {ts rest : List Lexeme} {e : Expr}
    (h : Yields (indexTail depth target ts) e rest) :
    Reads (.indexTail target) depth ts e rest := by
  by_cases hb : tokenOf ts = .lbracket
  · match ts with
    | ⟨line, _⟩ :: more =>
        cases hb
        obtain ⟨hd, position, line', mid, hp, ht⟩ := yields_indexTail_cons_iff.1 h
        have hmid : mid.length + 1 < more.length := hp.holds
        exact .indexNext hd (reads_chain hp) (reads_indexTail ht)
  · obtain ⟨rfl, rfl⟩ := (yields_indexTail_end_iff hb).1 h
    exact .indexEnd hb
termination_by (ts.length, 0)

theorem reads_primary {depth : Nat} {ts rest : List Lexeme} {e : Expr}
    (h : Yields (primary depth ts) e rest) : Reads .primary depth ts e rest := by
  match ts with
  | [] => exact absurd h (not_yields_primary (by simp [tokenOf]))
  | ⟨line, token⟩ :: more =>
      cases token with
      | int n =>
          rw [primary, yields_ok_iff] at h
          obtain ⟨rfl, rfl⟩ := h
          exact .int
      | ident x =>
          rw [primary, yields_ok_iff] at h
          obtain ⟨rfl, rfl⟩ := h
          exact .var
      | lparen =>
          obtain ⟨hd, line', hc⟩ := yields_primary_paren_iff.1 h
          exact .paren hd (reads_chain hc)
      | _ => exact absurd h (not_yields_primary (by simp [tokenOf]))
termination_by (ts.length, 0)

end

/-- The readers find exactly what the rules allow. -/
theorem reads_iff {goal : Goal} : Reads goal depth ts e rest ↔ goal.Yields depth ts e rest := by
  refine ⟨Reads.yields, fun h => ?_⟩
  cases goal with
  | chain level => exact reads_chain h
  | operand level => exact reads_operand h
  | chainTail level lhs => exact reads_chainTail h
  | signed => exact reads_signed h
  | indexed => exact reads_indexed h
  | indexTail target => exact reads_indexTail h
  | primary => exact reads_primary h

/-- What is read at some nesting is read the same way where less is open. -/
theorem Reads.mono {goal : Goal} (h : Reads goal depth ts e rest) {depth' : Nat}
    (hle : depth' ≤ depth) : Reads goal depth' ts e rest := by
  induction h generalizing depth' with
  | chain _ _ hl ht => exact .chain (hl hle) (ht hle)
  | factor _ h => exact .factor (h hle)
  | atom _ h => exact .atom (h hle)
  | chainEnd hop => exact .chainEnd hop
  | chainNext hop hd _ _ hr ht =>
      exact .chainNext hop (by omega) (hr (by omega)) (ht (by omega))
  | neg hd _ h => exact .neg (by omega) (h (by omega))
  | transpose hd _ h => exact .transpose (by omega) (h (by omega))
  | bare hm ht _ h => exact .bare hm ht (h hle)
  | indexed _ _ hp ht => exact .indexed (hp hle) (ht hle)
  | indexEnd hb => exact .indexEnd hb
  | indexNext hd _ _ hp ht => exact .indexNext (by omega) (hp (by omega)) (ht (by omega))
  | int => exact .int
  | var => exact .var
  | paren hd _ h => exact .paren (by omega) (h (by omega))

theorem Reads.length_lt {level : Level} (h : Reads (.chain level) depth ts e rest) :
    rest.length < ts.length :=
  Yields.holds (x := Script.chain level depth ts) h.yields

/-! ## What ends an expression -/

/-- The token starts no position and is no operator of a level below rank `r`. -/
def EndsBelow (r : Nat) (t : Token) : Prop :=
  t ≠ .lbracket ∧ ∀ level : Level, level.rank < r → level.operator? t = none

theorem EndsBelow.mono {r r' : Nat} {t : Token} (h : EndsBelow r t) (hr : r' ≤ r) :
    EndsBelow r' t := by
  refine ⟨h.1, fun level hl => h.2 level ?_⟩
  omega

theorem endsBelow_of_close {t : Token} (h : t = .rbracket ∨ t = .rparen ∨ t = .eof) (r : Nat) :
    EndsBelow r t := by
  obtain rfl | rfl | rfl := h <;> exact ⟨nofun, fun level _ => by cases level <;> rfl⟩

/-! ## Programs -/

/-- The expression of an action, if it has one. -/
def Action.value? : Action → Option Expr
  | .persistent _ => none
  | .assign _ e => some e
  | .display e => some e

/-- The expressions of a program, in order. -/
def expressions (program : Program) : List Expr := program.filterMap (·.action.value?)

/-- A statement that starts like none of the other kinds displays an expression. -/
theorem statement_eq_display (hp : tokenOf ts ≠ .persistent)
    (ha : ∀ line x line' more, ts ≠ ⟨line, .ident x⟩ :: ⟨line', .assign⟩ :: more) :
    statement ts =
      match chain .sum 0 ts with
      | .error f => .error f
      | .ok (e, out) => .ok (⟨lineOf ts, .display e⟩, out) := by
  refine statement.eq_4 ts ?_ ?_ ?_
  · intro _ _ _ _ h
    subst h
    exact hp rfl
  · intro _ _ h
    subst h
    exact hp rfl
  · intro line x line' more h
    exact ha line x line' more h

/-- `ReadsStatement ts s rest`: the tokens `ts` start with the statement `s`, and `rest` follows
    it. Where a line ends after the statement this is what the reader finds. -/
inductive ReadsStatement : List Lexeme → Statement → List Lexeme → Prop
  | persistent {line line' : Nat} {x : String} {rest : List Lexeme} :
      ReadsStatement (⟨line, .persistent⟩ :: ⟨line', .ident x⟩ :: rest) ⟨line, .persistent x⟩ rest
  | assign {line line' : Nat} {x : String} {ts rest : List Lexeme} {e : Expr}
      (h : Reads (.chain .sum) 0 ts e rest) :
      ReadsStatement (⟨line, .ident x⟩ :: ⟨line', .assign⟩ :: ts) ⟨line, .assign x e⟩ rest
  | display {t : Lexeme} {ts rest : List Lexeme} {e : Expr}
      (h : Reads (.chain .sum) 0 (t :: ts) e rest) :
      ReadsStatement (t :: ts) ⟨t.line, .display e⟩ rest

theorem readsStatement_of_statement {s : Statement} {hlt : rest.length < ts.length}
    (h : statement ts = .ok (s, ⟨rest, hlt⟩)) : ReadsStatement ts s rest := by
  unfold statement at h
  split at h
  · cases h
    exact .persistent
  · cases h
  · split at h
    · cases h
    · rename_i hc
      cases h
      exact .assign (reads_chain ⟨_, hc⟩)
  · split at h
    · cases h
    · rename_i hc
      cases h
      cases ts with
      | nil => exact absurd hlt (Nat.not_lt_zero _)
      | cons t ts => exact .display (reads_chain ⟨hlt, hc⟩)

theorem ReadsStatement.reads_value {s : Statement} (h : ReadsStatement ts s rest)
    (he : s.action.value? = some e) : ∃ ts' rest, Reads (.chain .sum) 0 ts' e rest := by
  cases h with
  | persistent => cases he
  | assign h =>
      cases he
      exact ⟨_, _, h⟩
  | display h =>
      cases he
      exact ⟨_, _, h⟩

theorem reads_of_statements {program : Program} (h : statements ts = .ok program)
    (he : e ∈ expressions program) : ∃ ts' rest, Reads (.chain .sum) 0 ts' e rest := by
  fun_induction statements ts generalizing program with
  | case1 => cases h; cases he
  | case2 => cases h; cases he
  | case3 _ _ ih => exact ih h he
  | case4 t more _ _ f hs => cases h
  | case5 t more _ _ s after hlen hs _ ih =>
      obtain ⟨tail, hp, rfl⟩ := (Outcome.map_eq_ok_iff _ _ _).1 h
      obtain ⟨s', hmem, hv⟩ := List.mem_filterMap.1 he
      obtain rfl | hmem := List.mem_cons.1 hmem
      · exact (readsStatement_of_statement hs).reads_value hv
      · exact ih hp (List.mem_filterMap.2 ⟨s', hmem, hv⟩)
  | case6 => cases h

/-- Every expression of an accepted source is read as a sum at nesting 0. -/
theorem reads_of_parse {source : List Char} {program : Program} (h : parse source = .ok program)
    (he : e ∈ expressions program) : ∃ ts rest, Reads (.chain .sum) 0 ts e rest := by
  obtain ⟨ts, -, hs⟩ := (Outcome.bind_eq_ok_iff _ _ _).1 h
  exact reads_of_statements hs he

end Gridscript.Script
