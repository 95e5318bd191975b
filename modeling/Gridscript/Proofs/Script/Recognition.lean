/-
  The readers of programs and the grammar.

  What is read is derived (`Reads.derived`). Conversely, the tokens of a derivation are read as
  what they stand for, whatever the nesting, unless the nesting gets too deep
  (`Derives.recognized`). The rules of the grammar recur to the left where the readers go on with
  a tail: the tokens of a sum, say, with more of the sum after them, are read like the tail with
  the sum so far on its left. So that is what the induction over derivations says.
-/
import Gridscript.Proofs.Script.Grammar
import Gridscript.Proofs.Script.Reading

namespace Gridscript.Script

/-- What the chains of a level are derived from. -/
def Level.category : Level → Category
  | sum => .expr
  | product => .term

/-- What the operands of a level are derived from. -/
def Level.operandCategory : Level → Category
  | sum => .term
  | product => .unary

theorem Derives.chain_of_operand {level : Level} {ts : List Lexeme} {e : Expr}
    (h : Derives level.operandCategory ts e) : Derives level.category ts e := by
  cases level with
  | sum => exact .exprTerm h
  | product => exact .termUnary h

theorem Derives.binary {level : Level} {op : BinaryOp} {t : Lexeme}
    (hop : level.operator? t.token = some op) {ts us : List Lexeme} {lhs rhs : Expr}
    (hl : Derives level.category ts lhs) (hr : Derives level.operandCategory us rhs) :
    Derives level.category (ts ++ t :: us) (.binary op lhs rhs) := by
  obtain ⟨line, token⟩ := t
  unfold Level.operator? at hop
  split at hop <;> cases hop
  · rename_i ht; cases ht; exact .add hl hr
  · rename_i ht; cases ht; exact .sub hl hr
  · rename_i ht; cases ht; exact .mul hl hr
  · rename_i ht; cases ht; exact .div hl hr

/-! ## What is read is derived -/

/-- The tokens that were read for a goal, and what is derived for them. A tail is derived with
    any tokens for the part before it. -/
def Goal.Derived : Goal → List Lexeme → Expr → Prop
  | chain level, ts, e => Derives level.category ts e
  | operand level, ts, e => Derives level.operandCategory ts e
  | chainTail level lhs, ts, e =>
      ∀ us, Derives level.category us lhs → Derives level.category (us ++ ts) e
  | signed, ts, e => Derives .unary ts e
  | indexed, ts, e => Derives .indexed ts e
  | indexTail target, ts, e => ∀ us, Derives .indexed us target → Derives .indexed (us ++ ts) e
  | primary, ts, e => Derives .primary ts e

theorem Reads.derived {goal : Goal} {depth : Nat} {ts rest : List Lexeme} {e : Expr}
    (h : Reads goal depth ts e rest) : ∃ us, ts = us ++ rest ∧ goal.Derived us e := by
  induction h with
  | chain _ _ hl ht =>
      obtain ⟨us, rfl, hl⟩ := hl
      obtain ⟨vs, rfl, ht⟩ := ht
      exact ⟨us ++ vs, by rw [List.append_assoc], ht us hl.chain_of_operand⟩
  | factor _ h => exact h
  | atom _ h => exact h
  | chainEnd => exact ⟨[], rfl, fun us hl => by rwa [List.append_nil]⟩
  | @chainNext level _ lhs rhs e t _ _ rest op hop _ _ _ hr ht =>
      obtain ⟨us, rfl, hr⟩ := hr
      obtain ⟨vs, rfl, ht⟩ := ht
      refine ⟨t :: us ++ vs, by simp, fun ws hl => ?_⟩
      have h := ht (ws ++ t :: us) (Derives.binary hop hl hr)
      rwa [List.append_assoc] at h
  | neg _ _ h =>
      obtain ⟨us, rfl, h⟩ := h
      exact ⟨_ :: us, rfl, .neg h⟩
  | transpose _ _ h =>
      obtain ⟨us, rfl, h⟩ := h
      exact ⟨_ :: us, rfl, .transpose h⟩
  | bare _ _ _ h =>
      obtain ⟨us, hus, h⟩ := h
      exact ⟨us, hus, .unaryIndexed h⟩
  | indexed _ _ hp ht =>
      obtain ⟨us, rfl, hp⟩ := hp
      obtain ⟨vs, rfl, ht⟩ := ht
      exact ⟨us ++ vs, by rw [List.append_assoc], ht us (.indexedPrimary hp)⟩
  | indexEnd => exact ⟨[], rfl, fun us ht => by rwa [List.append_nil]⟩
  | @indexNext _ line line' target position e _ _ rest _ _ _ hp ht =>
      obtain ⟨us, rfl, hp⟩ := hp
      obtain ⟨vs, rfl, ht⟩ := ht
      refine ⟨⟨line, .lbracket⟩ :: (us ++ [⟨line', .rbracket⟩]) ++ vs, by simp, fun ws hw => ?_⟩
      have h := ht (ws ++ ⟨line, .lbracket⟩ :: (us ++ [⟨line', .rbracket⟩])) (.index hw hp)
      rwa [List.append_assoc] at h
  | int => exact ⟨[_], rfl, .int⟩
  | var => exact ⟨[_], rfl, .var⟩
  | @paren _ line line' e _ rest _ _ h =>
      obtain ⟨us, rfl, h⟩ := h
      refine ⟨⟨line, .lparen⟩ :: (us ++ [⟨line', .rparen⟩]), by simp, ?_⟩
      exact Derives.paren h

/-! ## What is derived is read -/

/-- Reading ends because the nesting is too deep. -/
def TooDeep {α : Type} (x : Except Fault α) : Prop :=
  ∃ line, x = .error ⟨line, .badSyntax .tooDeep⟩

/-- What is read is `a` with `rest` after it, unless the nesting is too deep. -/
def Settles {α : Type} {P : List Lexeme → Prop}
    (x : Except Fault (α × { rest : List Lexeme // P rest })) (a : α) (rest : List Lexeme) : Prop :=
  (∃ h, x = .ok (a, ⟨rest, h⟩)) ∨ TooDeep x

section Readers

variable {level : Level} {depth : Nat} {ts mid rest : List Lexeme} {e lhs rhs target : Expr}

theorem settles_chain (hl : Settles (operand level depth ts) lhs mid)
    (ht : Settles (chainTail level depth lhs mid) e rest) :
    Settles (chain level depth ts) e rest := by
  rw [chain]
  obtain ⟨hmid, hl⟩ | ⟨line, hl⟩ := hl
  · obtain ⟨hrest, ht⟩ | ⟨line, ht⟩ := ht
    · simp only [hl, ht]
      exact .inl ⟨_, rfl⟩
    · simp only [hl, ht]
      exact .inr ⟨line, rfl⟩
  · simp only [hl]
    exact .inr ⟨line, rfl⟩

theorem settles_chainTail_end (hop : level.operator? (tokenOf ts) = none) :
    Settles (chainTail level depth e ts) e ts :=
  .inl ((yields_chainTail_end_iff hop).2 ⟨rfl, rfl⟩)

theorem settles_chainTail_cons {t : Lexeme} {op : BinaryOp}
    (hop : level.operator? t.token = some op)
    (hr : Settles (operand level (depth + 1) ts) rhs mid)
    (ht : Settles (chainTail level (depth + 1) (.binary op lhs rhs) mid) e rest) :
    Settles (chainTail level depth lhs (t :: ts)) e rest := by
  rw [chainTail]
  by_cases hd : depth < depthLimit
  · simp only [hop, deepen_of_lt hd]
    obtain ⟨hmid, hr⟩ | ⟨line, hr⟩ := hr
    · obtain ⟨hrest, ht⟩ | ⟨line, ht⟩ := ht
      · simp only [hr, ht]
        exact .inl ⟨_, rfl⟩
      · simp only [hr, ht]
        exact .inr ⟨line, rfl⟩
    · simp only [hr]
      exact .inr ⟨line, rfl⟩
  · simp only [hop, deepen_of_le hd]
    exact .inr ⟨_, rfl⟩

/-- A sign is read by `wrap`, whichever of the two it is. -/
theorem settles_signed_cons {t : Lexeme} {wrap : Expr → Expr}
    (ht : t.token = .minus ∧ wrap = .neg ∨ t.token = .transpose ∧ wrap = .transpose)
    (h : Settles (signed (depth + 1) ts) e rest) :
    Settles (signed depth (t :: ts)) (wrap e) rest := by
  obtain ⟨line, token⟩ := t
  obtain ⟨rfl, rfl⟩ | ⟨rfl, rfl⟩ := ht <;>
  · rw [signed]
    by_cases hd : depth < depthLimit
    · simp only [deepen_of_lt hd]
      obtain ⟨hrest, h⟩ | ⟨line, h⟩ := h
      · simp only [h]
        exact .inl ⟨_, rfl⟩
      · simp only [h]
        exact .inr ⟨line, rfl⟩
    · simp only [deepen_of_le hd]
      exact .inr ⟨_, rfl⟩

theorem settles_indexed (hp : Settles (primary depth ts) target mid)
    (ht : Settles (indexTail depth target mid) e rest) : Settles (indexed depth ts) e rest := by
  rw [indexed]
  obtain ⟨hmid, hp⟩ | ⟨line, hp⟩ := hp
  · obtain ⟨hrest, ht⟩ | ⟨line, ht⟩ := ht
    · simp only [hp, ht]
      exact .inl ⟨_, rfl⟩
    · simp only [hp, ht]
      exact .inr ⟨line, rfl⟩
  · simp only [hp]
    exact .inr ⟨line, rfl⟩

theorem settles_indexTail_end (hb : tokenOf ts ≠ .lbracket) :
    Settles (indexTail depth e ts) e ts :=
  .inl ((yields_indexTail_end_iff hb).2 ⟨rfl, rfl⟩)

theorem settles_indexTail_cons {line line' : Nat} {position : Expr}
    (hp : Settles (chain .sum (depth + 1) ts) position (⟨line', .rbracket⟩ :: mid))
    (ht : Settles (indexTail (depth + 1) (.index target position) mid) e rest) :
    Settles (indexTail depth target (⟨line, .lbracket⟩ :: ts)) e rest := by
  rw [indexTail]
  by_cases hd : depth < depthLimit
  · simp only [deepen_of_lt hd]
    obtain ⟨hmid, hp⟩ | ⟨line, hp⟩ := hp
    · obtain ⟨hrest, ht⟩ | ⟨line, ht⟩ := ht
      · simp only [hp, expect_cons, ht]
        exact .inl ⟨_, rfl⟩
      · simp only [hp, expect_cons, ht]
        exact .inr ⟨line, rfl⟩
    · simp only [hp]
      exact .inr ⟨line, rfl⟩
  · simp only [deepen_of_le hd]
    exact .inr ⟨_, rfl⟩

theorem settles_primary_paren {line line' : Nat}
    (h : Settles (chain .sum (depth + 1) ts) e (⟨line', .rparen⟩ :: rest)) :
    Settles (primary depth (⟨line, .lparen⟩ :: ts)) e rest := by
  rw [primary]
  by_cases hd : depth < depthLimit
  · simp only [deepen_of_lt hd]
    obtain ⟨hrest, h⟩ | ⟨line, h⟩ := h
    · simp only [h, expect_cons]
      exact .inl ⟨_, rfl⟩
    · simp only [h]
      exact .inr ⟨line, rfl⟩
  · simp only [deepen_of_le hd]
    exact .inr ⟨_, rfl⟩

end Readers

/-- The tokens are read as an operand of the level, wherever it ends after them. -/
def OperandRecognized (level : Level) (ts : List Lexeme) (e : Expr) : Prop :=
  ∀ depth rest, EndsBelow level.rank (tokenOf rest) →
    Settles (operand level depth (ts ++ rest)) e rest

/-- A chain of the level that begins with the tokens is read like the tail that goes on with
    what they stand for. -/
def ChainRecognized (level : Level) (ts : List Lexeme) (e : Expr) : Prop :=
  ∀ depth rest e' rest', EndsBelow level.rank (tokenOf rest) →
    (∀ depth', Settles (chainTail level depth' e rest) e' rest') →
    Settles (chain level depth (ts ++ rest)) e' rest'

/-- What reading makes of the tokens of a derivation, with anything after them that the readers
    would not take for a part of it. -/
def Category.Recognized : Category → List Lexeme → Expr → Prop
  | expr, ts, e => ChainRecognized .sum ts e
  | term, ts, e => ChainRecognized .product ts e
  | unary, ts, e => OperandRecognized .product ts e
  | indexed, ts, e => ∀ depth rest e' rest',
      (∀ depth', Settles (indexTail depth' e rest) e' rest') →
      Settles (Script.indexed depth (ts ++ rest)) e' rest'
  | primary, ts, e => ∀ depth rest, Settles (Script.primary depth (ts ++ rest)) e rest

theorem Level.endsBelow_of_operator {level : Level} {t : Token} {op : BinaryOp}
    (h : level.operator? t = some op) : EndsBelow level.rank t := by
  unfold Level.operator? at h
  split at h <;> cases h
  all_goals exact ⟨nofun, fun l hl => by cases l <;> first | rfl | exact absurd hl (by decide)⟩

theorem OperandRecognized.chain {level : Level} {ts : List Lexeme} {e : Expr}
    (h : OperandRecognized level ts e) : ChainRecognized level ts e :=
  fun depth rest _ _ hend ht => settles_chain (h depth rest hend) (ht depth)

theorem ChainRecognized.binary {level : Level} {op : BinaryOp} {t : Lexeme}
    (hop : level.operator? t.token = some op) {ts us : List Lexeme} {lhs rhs : Expr}
    (hl : ChainRecognized level ts lhs) (hr : OperandRecognized level us rhs) :
    ChainRecognized level (ts ++ t :: us) (.binary op lhs rhs) := by
  intro depth rest e' rest' hend ht
  rw [List.append_assoc]
  refine hl depth (t :: us ++ rest) e' rest' (Level.endsBelow_of_operator hop) fun depth' => ?_
  exact settles_chainTail_cons hop (hr (depth' + 1) rest hend) (ht (depth' + 1))

/-- A product is read whole where no factor follows. -/
theorem ChainRecognized.operand {ts : List Lexeme} {e : Expr}
    (h : ChainRecognized .product ts e) : OperandRecognized .sum ts e := by
  intro depth rest hend
  rw [Script.operand]
  refine h depth rest e rest (hend.mono (by decide)) fun depth' => ?_
  exact settles_chainTail_end (hend.2 .product (by decide))

/-- A sum is read whole where no term follows. -/
theorem ChainRecognized.settles {ts rest : List Lexeme} {e : Expr}
    (h : ChainRecognized .sum ts e) (depth : Nat) (hend : EndsBelow 3 (tokenOf rest)) :
    Settles (Script.chain .sum depth (ts ++ rest)) e rest :=
  h depth rest e rest (hend.mono (by decide))
    fun _ => settles_chainTail_end (hend.2 .sum (by decide))

/-- No sign stands at the start of what has none. -/
theorem Derives.tokenOf_ne_sign {category : Category} {ts : List Lexeme} {e : Expr}
    (h : Derives category ts e) (hc : category = .indexed ∨ category = .primary)
    (rest : List Lexeme) :
    tokenOf (ts ++ rest) ≠ .minus ∧ tokenOf (ts ++ rest) ≠ .transpose := by
  induction h generalizing rest with
  | indexedPrimary _ h => exact h (.inr rfl) rest
  | index _ _ ht _ =>
      rw [List.append_assoc]
      exact ht (.inl rfl) _
  | int => exact ⟨nofun, nofun⟩
  | var => exact ⟨nofun, nofun⟩
  | paren => exact ⟨nofun, nofun⟩
  | _ => simp at hc

theorem Derives.recognized {category : Category} {ts : List Lexeme} {e : Expr}
    (h : Derives category ts e) : category.Recognized ts e := by
  induction h with
  | add _ _ hl hr => exact ChainRecognized.binary rfl hl hr.operand
  | sub _ _ hl hr => exact ChainRecognized.binary rfl hl hr.operand
  | exprTerm _ h => exact OperandRecognized.chain h.operand
  | mul _ _ hl hr => exact ChainRecognized.binary rfl hl hr
  | div _ _ hl hr => exact ChainRecognized.binary rfl hl hr
  | termUnary _ h => exact OperandRecognized.chain h
  | neg _ h =>
      intro depth rest hend
      have h := h (depth + 1) rest hend
      rw [operand] at h ⊢
      exact settles_signed_cons (.inl ⟨rfl, rfl⟩) h
  | transpose _ h =>
      intro depth rest hend
      have h := h (depth + 1) rest hend
      rw [operand] at h ⊢
      exact settles_signed_cons (.inr ⟨rfl, rfl⟩) h
  | unaryIndexed hd h =>
      intro depth rest hend
      obtain ⟨hm, ht⟩ := hd.tokenOf_ne_sign (.inl rfl) rest
      rw [operand, signed_eq_indexed hm ht]
      exact h depth rest _ rest fun depth' => settles_indexTail_end hend.1
  | indexedPrimary _ h =>
      intro depth rest e' rest' ht
      exact settles_indexed (h depth rest) (ht depth)
  | index _ _ ht hp =>
      intro depth rest e' rest' htail
      rw [List.append_assoc, List.cons_append, List.append_assoc, List.singleton_append]
      refine ht depth _ e' rest' fun depth' => ?_
      exact settles_indexTail_cons
        (hp.settles (depth' + 1) (endsBelow_of_close (.inl rfl) 3)) (htail (depth' + 1))
  | int => exact fun depth rest => .inl Reads.int.yields
  | var => exact fun depth rest => .inl Reads.var.yields
  | paren _ h =>
      intro depth rest
      rw [List.cons_append, List.append_assoc, List.singleton_append]
      exact settles_primary_paren
        (h.settles (depth + 1) (endsBelow_of_close (.inr (.inl rfl)) 3))

/-! ## Statements -/

theorem ReadsStatement.derived {ts rest : List Lexeme} {s : Statement}
    (h : ReadsStatement ts s rest) :
    ∃ us, ts = us ++ rest ∧ DerivesStatement us s := by
  cases h with
  | persistent => exact ⟨[_, _], rfl, .persistent⟩
  | assign h =>
      obtain ⟨us, rfl, hd⟩ := h.derived
      exact ⟨_ :: _ :: us, rfl, .assign hd⟩
  | display h =>
      have hlt := h.length_lt
      obtain ⟨us, hus, hd⟩ := h.derived
      cases us with
      | nil =>
          rw [hus, List.nil_append] at hlt
          exact absurd hlt (Nat.lt_irrefl _)
      | cons u us =>
          obtain ⟨rfl, -⟩ := List.cons.inj hus
          exact ⟨_ :: us, hus, .display hd⟩

/-- The line ends after the tokens. -/
def AtLineEnd (ts : List Lexeme) : Prop := tokenOf ts = .newline ∨ tokenOf ts = .eof

theorem AtLineEnd.endsBelow {ts : List Lexeme} (h : AtLineEnd ts) (r : Nat) :
    EndsBelow r (tokenOf ts) := by
  obtain h | h := h
  all_goals rw [h]; exact ⟨nofun, fun level _ => by cases level <;> rfl⟩

theorem AtLineEnd.ne_assign {ts : List Lexeme} (h : AtLineEnd ts) : tokenOf ts ≠ .assign := by
  obtain h | h := h
  all_goals rw [h]; exact nofun

/-- An expression at the end of its line starts like none of the other statements. -/
theorem Derives.not_starts {ts rest : List Lexeme} {e : Expr} (h : Derives .expr ts e)
    (hrest : AtLineEnd rest) :
    tokenOf (ts ++ rest) ≠ .persistent ∧
      ∀ line x line' more, ts ++ rest ≠ ⟨line, .ident x⟩ :: ⟨line', .assign⟩ :: more := by
  have htokens := h.inExpr_of_mem
  constructor
  · intro hp
    cases ts with
    | nil =>
        obtain hrest | hrest := hrest
        all_goals rw [List.nil_append, hrest] at hp; cases hp
    | cons t ts =>
        have ht : t.token.inExpr = true := htokens t List.mem_cons_self
        rw [show t.token = .persistent from hp] at ht
        cases ht
  · intro line x line' more he
    match ts with
    | [] =>
        subst he
        obtain hrest | hrest := hrest <;> cases hrest
    | [t] => exact hrest.ne_assign (congrArg tokenOf (List.cons.inj he).2)
    | t :: u :: ts =>
        have hu : u.token.inExpr = true :=
          htokens u (List.mem_cons_of_mem _ List.mem_cons_self)
        rw [(List.cons.inj (List.cons.inj he).2).1] at hu
        cases hu

theorem ReadsStatement.statement_eq {ts rest : List Lexeme} {s : Statement}
    (h : ReadsStatement ts s rest) (hrest : AtLineEnd rest) :
    ∃ hlt, statement ts = .ok (s, ⟨rest, hlt⟩) := by
  cases h with
  | persistent => exact ⟨Nat.lt_succ_of_lt (Nat.lt_succ_self _), rfl⟩
  | assign h =>
      obtain ⟨hlt, hc⟩ := h.yields
      refine ⟨Nat.lt_succ_of_lt (Nat.lt_succ_of_lt hlt), ?_⟩
      rw [statement]
      simp only [hc]
  | display h =>
      obtain ⟨us, hus, hd⟩ := h.derived
      obtain ⟨hlt, hc⟩ := h.yields
      obtain ⟨hp, ha⟩ := hd.not_starts hrest
      rw [← hus] at hp ha
      rw [statement_eq_display hp ha, hc]
      exact ⟨hlt, rfl⟩

theorem DerivesStatement.settles {ts rest : List Lexeme} {s : Statement}
    (h : DerivesStatement ts s) (hrest : AtLineEnd rest) :
    Settles (statement (ts ++ rest)) s rest := by
  cases h with
  | persistent => exact .inl ⟨Nat.lt_succ_of_lt (Nat.lt_succ_self _), rfl⟩
  | @assign line line' x us e h =>
      rw [List.cons_append, List.cons_append, statement]
      obtain ⟨hlt, hc⟩ | ⟨line, hc⟩ := h.recognized.settles 0 (hrest.endsBelow 3)
      · simp only [hc]
        exact .inl ⟨_, rfl⟩
      · simp only [hc]
        exact .inr ⟨line, rfl⟩
  | @display t us e h =>
      obtain ⟨hp, ha⟩ := h.not_starts hrest
      rw [statement_eq_display hp ha]
      obtain ⟨hlt, hc⟩ | ⟨line, hc⟩ := h.recognized.settles 0 (hrest.endsBelow 3)
      · simp only [hc]
        exact .inl ⟨hlt, rfl⟩
      · simp only [hc]
        exact .inr ⟨line, rfl⟩

/-! ## Programs -/

/-- A statement at the end of its line is read, and the rest of the program after it. -/
theorem DerivesStatement.statements_append {ts : List Lexeme} {s : Statement}
    (h : DerivesStatement ts s) (rest : List Lexeme) (hrest : AtLineEnd rest) :
    statements (ts ++ rest) = (statements rest).map (s :: ·) ∨
      TooDeep (statements (ts ++ rest)) := by
  have hs := h.settles hrest
  obtain ⟨t, us, rfl⟩ := h.exists_cons
  obtain ⟨hn, he⟩ := h.ne_of_mem t List.mem_cons_self
  rw [List.cons_append, statements]
  · obtain ⟨hlt, hs⟩ | ⟨line, hs⟩ := hs
    · simp only [List.cons_append] at hs
      simp only [hs]
      exact .inl (if_pos hrest)
    · simp only [List.cons_append] at hs
      simp only [hs]
      exact .inr ⟨line, rfl⟩
  · rintro _ rfl
    exact he rfl
  · rintro _ rfl
    exact hn rfl

/-- The tokens of a derivation, with the end of the tokens after them, are read as its program,
    unless the nesting is too deep. -/
theorem DerivesProgram.statements_eq {ts : List Lexeme} {program : Program}
    (h : DerivesProgram ts program) (line : Nat) :
    statements (ts ++ [⟨line, .eof⟩]) = .ok program ∨
      TooDeep (statements (ts ++ [⟨line, .eof⟩])) := by
  have hend : statements [⟨line, .eof⟩] = .ok [] := by rw [statements]
  induction h with
  | nil => exact .inl hend
  | last hs =>
      obtain h | h := hs.statements_append [⟨line, .eof⟩] (.inr rfl)
      · rw [h, hend]
        exact .inl rfl
      · exact .inr h
  | blank _ ih =>
      rw [List.cons_append, statements]
      exact ih
  | @next line' us vs s program hs _ ih =>
      have hblank : statements (⟨line', .newline⟩ :: (vs ++ [⟨line, .eof⟩])) =
          statements (vs ++ [⟨line, .eof⟩]) := by rw [statements]
      rw [List.append_assoc, List.cons_append]
      obtain h | h := hs.statements_append (⟨line', .newline⟩ :: (vs ++ [⟨line, .eof⟩])) (.inl rfl)
      · rw [h, hblank]
        obtain ih | ⟨l, ih⟩ := ih
        · rw [ih]
          exact .inl rfl
        · rw [ih]
          exact .inr ⟨l, rfl⟩
      · exact .inr h

/-- A line end at the start of a program ends a line without a statement. -/
theorem DerivesProgram.of_newline {line : Nat} {ts : List Lexeme} {program : Program}
    (h : DerivesProgram (⟨line, .newline⟩ :: ts) program) : DerivesProgram ts program := by
  generalize hus : (⟨line, .newline⟩ : Lexeme) :: ts = us at h
  cases h with
  | nil => cases hus
  | last hs =>
      subst hus
      exact absurd rfl (hs.ne_of_mem _ List.mem_cons_self).1
  | blank h =>
      cases hus
      exact h
  | next hs h =>
      obtain ⟨t, more, rfl⟩ := hs.exists_cons
      cases hus
      exact absurd rfl (hs.ne_of_mem _ List.mem_cons_self).1

/-- What comes before an item and does not hold it comes before what precedes the item. -/
theorem exists_append_of_not_mem {α : Type} {x : α} {pre rest before after : List α}
    (hx : x ∉ pre) (h : pre ++ rest = before ++ x :: after) :
    ∃ mid, before = pre ++ mid ∧ rest = mid ++ x :: after := by
  obtain ⟨mid, rfl, hrest⟩ | ⟨mid, rfl, hrest⟩ := List.append_eq_append_iff.1 h
  · exact ⟨mid, rfl, hrest⟩
  · cases mid with
    | nil => exact ⟨[], by simp, hrest.symm⟩
    | cons y mid =>
        obtain ⟨rfl, -⟩ := List.cons.inj hrest
        exact absurd (List.mem_append_right _ List.mem_cons_self) hx

/-- What is read from tokens that end in their only `eof` is derived from those before it. -/
theorem derivesProgram_of_statements {ts : List Lexeme} {program : Program}
    (h : statements ts = .ok program) {line : Nat} {body : List Lexeme}
    (hts : ts = body ++ [⟨line, .eof⟩]) (hbody : ∀ t ∈ body, t.token ≠ .eof) :
    DerivesProgram body program := by
  fun_induction statements ts generalizing program body with
  | case1 => exact absurd hts.symm (List.append_ne_nil_of_right_ne_nil _ (List.cons_ne_nil _ _))
  | case2 =>
      cases h
      cases body with
      | nil => exact .nil
      | cons t body =>
          obtain ⟨rfl, -⟩ := List.cons.inj hts
          exact absurd rfl (hbody _ List.mem_cons_self)
  | case3 l more ih =>
      cases body with
      | nil => cases hts
      | cons t body =>
          obtain ⟨rfl, rfl⟩ := List.cons.inj hts
          exact .blank (ih h rfl fun t ht => hbody t (List.mem_cons_of_mem _ ht))
  | case4 => cases h
  | case5 t more _ _ s rest hlt hs hend ih =>
      obtain ⟨tail, hp, rfl⟩ := (Outcome.map_eq_ok_iff _ _ _).1 h
      obtain ⟨us, hus, hd⟩ := (readsStatement_of_statement hs).derived
      obtain ⟨body', rfl, rfl⟩ :=
        exists_append_of_not_mem (fun hmem => (hd.ne_of_mem _ hmem).2 rfl) (hus.symm.trans hts)
      have hbody' := fun t ht => hbody t (List.mem_append_right us ht)
      have htail := ih hp rfl hbody'
      -- Either nothing is left before the end, or a line end that the next line starts after.
      cases body' with
      | nil =>
          rw [List.nil_append, statements] at hp
          cases hp
          rw [List.append_nil]
          exact .last hd
      | cons t body' =>
          obtain ⟨l, token⟩ := t
          obtain hn | he := hend
          · cases hn
            exact .next hd htail.of_newline
          · exact absurd he (hbody' _ List.mem_cons_self)
  | case6 => cases h

/-- Reading takes exactly the programs of the grammar. For tokens that end in their only `eof`,
    a program that is read is derived from the tokens before it, with the line of each statement
    that of its first token. Conversely a program that is derived from them is what is read,
    unless an expression is nested too deeply for the readers. -/
theorem statements_accepts_grammar (body : List Lexeme) (hbody : ∀ t ∈ body, t.token ≠ .eof)
    (line : Nat) (program : Program) :
    (statements (body ++ [⟨line, .eof⟩]) = .ok program → DerivesProgram body program) ∧
    (DerivesProgram body program →
      statements (body ++ [⟨line, .eof⟩]) = .ok program ∨
      ∃ line' issue, statements (body ++ [⟨line, .eof⟩]) = .error ⟨line', .badSyntax issue⟩ ∧
        issue.message = "expression nested too deeply") := by
  refine ⟨fun h => derivesProgram_of_statements h rfl hbody, fun h => ?_⟩
  obtain h | ⟨line', h⟩ := h.statements_eq line
  · exact .inl h
  · exact .inr ⟨line', .tooDeep, h, rfl⟩

/-- `x = A - -B * 0 + C`, a blank line, and `transpose (E)[0]`. -/
def mixedTokens : List Lexeme :=
  [⟨1, .ident "x"⟩, ⟨1, .assign⟩, ⟨1, .ident "A"⟩, ⟨1, .minus⟩, ⟨1, .minus⟩, ⟨1, .ident "B"⟩,
    ⟨1, .star⟩, ⟨1, .int 0⟩, ⟨1, .plus⟩, ⟨1, .ident "C"⟩, ⟨1, .newline⟩, ⟨2, .newline⟩,
    ⟨3, .transpose⟩, ⟨3, .lparen⟩, ⟨3, .ident "E"⟩, ⟨3, .rparen⟩, ⟨3, .lbracket⟩, ⟨3, .int 0⟩,
    ⟨3, .rbracket⟩]

def mixedProgram : Program :=
  [⟨1, .assign "x" (.binary .add
      (.binary .sub (.var "A") (.binary .mul (.neg (.var "B")) (.int 0))) (.var "C"))⟩,
    ⟨3, .display (.transpose (.index (.var "E") (.int 0)))⟩]

theorem statements_mixedTokens :
    (∀ t ∈ mixedTokens, t.token ≠ .eof) ∧
      statements (mixedTokens ++ [⟨3, .eof⟩]) = .ok mixedProgram ∧
      DerivesProgram mixedTokens mixedProgram := by
  have hbody : ∀ t ∈ mixedTokens, t.token ≠ .eof := by decide
  have hread : statements (mixedTokens ++ [⟨3, .eof⟩]) = .ok mixedProgram := by cbv
  exact ⟨hbody, hread, (statements_accepts_grammar mixedTokens hbody 3 mixedProgram).1 hread⟩

end Gridscript.Script
