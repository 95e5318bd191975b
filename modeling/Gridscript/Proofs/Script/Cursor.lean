/-
  Reading with a cursor.

  The readers of programs take the tokens that are left and the nesting, and give back the tokens
  that are left after them. Here the same is done by steps that move a cursor over all tokens: a
  step looks at the token at the cursor, moves it by one, counts the nesting up, or sets it back.
  The cursor stays where it is on the last token, and the loops go on as long as the tokens allow.
  So nothing in these steps says when they end, that the cursor stays inside of the tokens, or that
  the nesting is counted back. A step that looks outside of the tokens, or that enters more
  expressions inside of each other than there is room for, is stuck, and so is one that makes more
  calls inside of each other than it has fuel for; the outcome is `none` then.

  This file holds the steps, and says what each single step does where the tokens ahead of the
  cursor are known and only the last of them ends the input.
-/
import Gridscript.Proofs.Script.Grammar
import Gridscript.Proofs.Script.Reading

namespace Gridscript.Script

/-! ## Tokens up to the end of the input -/

/-- The last token is the only one that ends the input. -/
def Closes (us : List Lexeme) : Prop :=
  ∃ body line, us = body ++ [⟨line, .eof⟩] ∧ ∀ t ∈ body, t.token ≠ .eof

theorem Closes.ne_nil {us : List Lexeme} (h : Closes us) : us ≠ [] := by
  obtain ⟨body, line, rfl, -⟩ := h
  simp

theorem Closes.eq_nil_of_eof {t : Lexeme} {us : List Lexeme} (h : Closes (t :: us))
    (ht : t.token = .eof) : us = [] := by
  obtain ⟨body, line, heq, hbody⟩ := h
  cases body with
  | nil => exact (List.cons.inj heq).2
  | cons u body =>
      obtain ⟨rfl, -⟩ := List.cons.inj heq
      exact absurd ht (hbody _ List.mem_cons_self)

/-- The tokens that stand before `rest` in `us` do not end the input. -/
def Passes (us rest : List Lexeme) : Prop := ∃ mid, us = mid ++ rest ∧ ∀ t ∈ mid, t.token ≠ .eof

theorem Passes.refl (us : List Lexeme) : Passes us us := ⟨[], rfl, by simp⟩

theorem Passes.cons {us rest : List Lexeme} (h : Passes us rest) {t : Lexeme}
    (ht : t.token ≠ .eof) : Passes (t :: us) rest := by
  obtain ⟨mid, rfl, hmid⟩ := h
  exact ⟨t :: mid, rfl, List.forall_mem_cons.2 ⟨ht, hmid⟩⟩

theorem Passes.trans {us vs ws : List Lexeme} (h : Passes us vs) (h' : Passes vs ws) :
    Passes us ws := by
  obtain ⟨m, rfl, hm⟩ := h
  obtain ⟨m', rfl, hm'⟩ := h'
  exact ⟨m ++ m', (List.append_assoc _ _ _).symm, List.forall_mem_append.2 ⟨hm, hm'⟩⟩

theorem Closes.of_passes {us rest : List Lexeme} (h : Closes us) (hp : Passes us rest) :
    Closes rest := by
  obtain ⟨mid, rfl, hmid⟩ := hp
  induction mid with
  | nil => exact h
  | cons t mid ih =>
      obtain ⟨body, line, heq, hbody⟩ := h
      cases body with
      | nil =>
          obtain ⟨rfl, -⟩ := List.cons.inj heq
          exact absurd rfl (hmid _ List.mem_cons_self)
      | cons u body =>
          obtain ⟨rfl, htail⟩ := List.cons.inj heq
          refine ih (fun v hv => hmid v (List.mem_cons_of_mem _ hv)) ⟨body, line, htail, ?_⟩
          exact fun v hv => hbody v (List.mem_cons_of_mem _ hv)

theorem Level.ne_eof_of_operator {level : Level} {token : Token} {op : BinaryOp}
    (h : level.operator? token = some op) : token ≠ .eof := by
  rintro rfl
  cases level <;> cases h

/-- A reader that succeeds does not read past the end of the input. -/
theorem Reads.passes {goal : Goal} {depth : Nat} {us rest : List Lexeme} {e : Expr}
    (h : Reads goal depth us e rest) : Passes us rest := by
  induction h with
  | chain _ _ hl ht => exact hl.trans ht
  | factor _ h => exact h
  | atom _ h => exact h
  | chainEnd => exact .refl _
  | chainNext hop _ _ _ hr ht => exact (hr.trans ht).cons (Level.ne_eof_of_operator hop)
  | neg _ _ h => exact h.cons (by simp)
  | transpose _ _ h => exact h.cons (by simp)
  | bare _ _ _ h => exact h
  | indexed _ _ hp ht => exact hp.trans ht
  | indexEnd => exact .refl _
  | indexNext _ _ _ hp ht => exact (hp.trans (ht.cons (by simp))).cons (by simp)
  | int => exact (Passes.refl _).cons (by simp)
  | var => exact (Passes.refl _).cons (by simp)
  | paren _ _ h => exact (h.trans ((Passes.refl _).cons (by simp))).cons (by simp)

theorem passes_of_statement {us rest : List Lexeme} {s : Statement}
    {hlt : rest.length < us.length} (h : statement us = .ok (s, ⟨rest, hlt⟩)) :
    Passes us rest := by
  cases readsStatement_of_statement h with
  | persistent => exact ((Passes.refl rest).cons (by simp)).cons (by simp)
  | assign h => exact (h.passes.cons (by simp)).cons (by simp)
  | display h => exact h.passes

namespace Cursor

/-- The place of the next token, and the nesting. -/
structure State where
  pos : Nat
  depth : Nat
deriving DecidableEq

/-- A step gives a value and a new state, or ends the reading with a fault. `none` stands for a
    step that goes wrong. -/
abbrev Step := StateT State (ExceptT Fault Option)

variable (ts : List Lexeme)

/-! ## Single steps -/

/-- The next token. -/
def next : Step Lexeme := fun s => ts[s.pos]?.map fun t => .ok (t, s)

def peek : Step Token := return (← next ts).token

/-- The token after the next, or the last token. -/
def peekSecond : Step Token := fun s =>
  ts[min (s.pos + 1) (ts.length - 1)]?.map fun t => .ok (t.token, s)

/-- The next token, which is passed over unless it is the last. -/
def advance : Step Token := do
  let t ← next ts
  modify fun s => if s.pos + 1 < ts.length then { s with pos := s.pos + 1 } else s
  return t.token

/-- A fault at the next token. -/
def fail {α : Type} (issue : SyntaxIssue) : Step α := do
  let t ← next ts
  throw ⟨t.line, .badSyntax issue⟩

def expect (token : Token) (wanted : Wanted) : Step Unit := do
  let found ← peek ts
  if found = token then discard (advance ts) else fail ts (.expected wanted found)

/-- One level deeper. -/
def descend : Step Unit := do
  modify fun s => { s with depth := s.depth + 1 }
  let s ← get
  if depthLimit < s.depth then fail ts .tooDeep

/-- Back to a nesting. -/
def restore (depth : Nat) : Step Unit := modify fun s => { s with depth := depth }

/-- A step that goes wrong. -/
def stuck {α : Type} : Step α := fun _ => none

/-! ## Expressions -/

-- In what follows `fuel` bounds the calls inside of each other, with each turn of a loop as a call
-- of its own. Where it is used up the step is stuck.

/-- The signs before an operand, the last of them first. -/
def signs : Nat → List Token → Step (List Token)
  | 0, _ => stuck
  | fuel + 1, found => do
      let t ← peek ts
      if t = .minus ∨ t = .transpose then
        discard (advance ts)
        descend ts
        signs fuel (t :: found)
      else return found

/-- An expression under a sign. -/
def applySign (e : Expr) (sign : Token) : Expr := if sign = .minus then .neg e else .transpose e

/-- A whole expression inside of another, for which there has to be room. -/
def inner (whole : Nat → Step Expr) : Nat → Step Expr
  | 0 => stuck
  | room + 1 => whole room

mutual

/-- A chain of operands joined by the operators of a level. There is room for `room` expressions
    inside of each other. -/
def chain : Nat → Level → Nat → Step Expr
  | 0, _, _ => stuck
  | fuel + 1, level, room => do
      let s ← get
      let lhs ← operand fuel level room
      let e ← chainTail fuel level room lhs
      restore s.depth
      return e

def operand : Nat → Level → Nat → Step Expr
  | 0, _, _ => stuck
  | fuel + 1, .sum, room => chain fuel .product room
  | fuel + 1, .product, room => signed fuel room

def chainTail : Nat → Level → Nat → Expr → Step Expr
  | 0, _, _, _ => stuck
  | fuel + 1, level, room, lhs => do
      let t ← peek ts
      match level.operator? t with
      | none => return lhs
      | some op =>
          discard (advance ts)
          descend ts
          let rhs ← operand fuel level room
          chainTail fuel level room (.binary op lhs rhs)

def signed : Nat → Nat → Step Expr
  | 0, _ => stuck
  | fuel + 1, room => do
      let s ← get
      let found ← signs ts fuel []
      let e ← indexed fuel room
      restore s.depth
      return found.foldl applySign e

def indexed : Nat → Nat → Step Expr
  | 0, _ => stuck
  | fuel + 1, room => do
      let s ← get
      let target ← primary fuel room
      let e ← indexTail fuel room target
      restore s.depth
      return e

def indexTail : Nat → Nat → Expr → Step Expr
  | 0, _, _ => stuck
  | fuel + 1, room, target => do
      let t ← peek ts
      if t = .lbracket then
        discard (advance ts)
        descend ts
        let position ← inner (chain fuel .sum) room
        expect ts .rbracket .closingBracket
        indexTail fuel room (.index target position)
      else return target

-- The nesting is counted back by one here, and not set back to what it was.
def primary : Nat → Nat → Step Expr
  | 0, _ => stuck
  | fuel + 1, room => do
      let t ← peek ts
      match t with
      | .int n =>
          discard (advance ts)
          return .int n
      | .ident x =>
          discard (advance ts)
          return .var x
      | .lparen =>
          discard (advance ts)
          descend ts
          let e ← inner (chain fuel .sum) room
          expect ts .rparen .closingParen
          modify fun s => { s with depth := s.depth - 1 }
          return e
      | found => fail ts (.expected .expression found)

end

/-! ## Programs -/

def statement (fuel room : Nat) : Step Statement := do
  let t ← next ts
  let second ← peekSecond ts
  match t.token with
  | .persistent =>
      discard (advance ts)
      match ← advance ts with
      | .ident x => return ⟨t.line, .persistent x⟩
      | found => throw ⟨t.line, .badSyntax (.expected .gridName found)⟩
  | .ident x =>
      if second = .assign then
        discard (advance ts)
        discard (advance ts)
        let e ← chain ts fuel .sum room
        return ⟨t.line, .assign x e⟩
      else
        let e ← chain ts fuel .sum room
        return ⟨t.line, .display e⟩
  | _ =>
      let e ← chain ts fuel .sum room
      return ⟨t.line, .display e⟩

/-- The statements up to the end of the input, after those that are done. -/
def program : Nat → Nat → Program → Step Program
  | 0, _, _ => stuck
  | fuel + 1, room, done => do
      let t ← peek ts
      match t with
      | .eof => return done
      | .newline =>
          discard (advance ts)
          program fuel room done
      | _ =>
          let s ← statement ts fuel room
          let t ← peek ts
          if t = .newline ∨ t = .eof then program fuel room (done ++ [s])
          else fail ts (.expected .endOfStatement t)

/-! ## Steps one after the other -/

section Bind

variable {α β : Type} {x : Step α} {f : α → Step β} {s s' : State}

theorem bind_of_ok {a : α} (h : x s = some (.ok (a, s'))) : (x >>= f) s = f a s' := by
  show (x s).bind _ = _
  rw [h]
  rfl

theorem bind_of_error {e : Fault} (h : x s = some (.error e)) :
    (x >>= f) s = some (.error e) := by
  show (x s).bind _ = _
  rw [h]
  rfl

end Bind

/-! ## Places -/

/-- What is left of the tokens is `us`. -/
structure Ahead (ts us : List Lexeme) : Prop where
  suffix : us <:+ ts
  closes : Closes us

/-- The state with `us` ahead. -/
def place (ts us : List Lexeme) (depth : Nat) : State := ⟨ts.length - us.length, depth⟩

section Places

variable {ts us rest : List Lexeme} {t : Lexeme} {depth : Nat}

theorem Ahead.of_passes (h : Ahead ts us) (hp : Passes us rest) : Ahead ts rest := by
  refine ⟨?_, h.closes.of_passes hp⟩
  obtain ⟨mid, rfl, -⟩ := hp
  exact (List.suffix_append mid rest).trans h.suffix

theorem Ahead.tail (h : Ahead ts (t :: rest)) (ht : t.token ≠ .eof) : Ahead ts rest :=
  h.of_passes ((Passes.refl rest).cons ht)

theorem Ahead.exists_cons (h : Ahead ts us) : ∃ t rest, us = t :: rest :=
  List.exists_cons_of_ne_nil h.closes.ne_nil

theorem next_place (h : Ahead ts (t :: rest)) :
    next ts (place ts (t :: rest) depth) = some (.ok (t, place ts (t :: rest) depth)) := by
  obtain ⟨before, rfl⟩ := h.suffix
  have hpos : (before ++ t :: rest).length - (t :: rest).length = before.length := by
    rw [List.length_append, Nat.add_sub_cancel]
  unfold next place
  dsimp only
  rw [hpos, List.getElem?_append_right (Nat.le_refl _), Nat.sub_self]
  rfl

theorem peek_place (h : Ahead ts us) :
    peek ts (place ts us depth) = some (.ok (tokenOf us, place ts us depth)) := by
  obtain ⟨t, rest, rfl⟩ := h.exists_cons
  exact bind_of_ok (next_place h)

theorem fail_place {α : Type} (h : Ahead ts us) (issue : SyntaxIssue) :
    (fail ts issue : Step α) (place ts us depth) =
      some (.error ⟨lineOf us, .badSyntax issue⟩) := by
  obtain ⟨t, rest, rfl⟩ := h.exists_cons
  exact bind_of_ok (next_place h)

/-- A token that does not end the input is not the last, and the cursor moves over it. -/
theorem advance_place (h : Ahead ts (t :: rest)) (ht : t.token ≠ .eof) :
    advance ts (place ts (t :: rest) depth) = some (.ok (t.token, place ts rest depth)) := by
  have hrest := List.length_pos_iff.2 (h.tail ht).closes.ne_nil
  have hle := h.suffix.length_le
  rw [List.length_cons] at hle
  have hlt : ts.length - (rest.length + 1) + 1 < ts.length := by omega
  have hpos : ts.length - (rest.length + 1) + 1 = ts.length - rest.length := by omega
  refine (bind_of_ok (next_place h)).trans ?_
  show some (Except.ok (t.token,
    if ts.length - (rest.length + 1) + 1 < ts.length then _ else _)) = _
  rw [if_pos hlt]
  exact congrArg (fun pos => some (Except.ok (t.token, (⟨pos, depth⟩ : State)))) hpos

/-- The cursor stays on the token that ends the input. -/
theorem exists_advance (h : Ahead ts us) :
    ∃ s, advance ts (place ts us depth) = some (.ok (tokenOf us, s)) := by
  obtain ⟨t, rest, rfl⟩ := h.exists_cons
  exact ⟨_, bind_of_ok (next_place h)⟩

theorem peekSecond_place (h : Ahead ts (t :: rest)) (ht : t.token ≠ .eof) :
    peekSecond ts (place ts (t :: rest) depth) =
      some (.ok (tokenOf rest, place ts (t :: rest) depth)) := by
  obtain ⟨u, more, rfl⟩ := (h.tail ht).exists_cons
  obtain ⟨before, rfl⟩ := h.suffix
  have hpos : min ((place (before ++ t :: u :: more) (t :: u :: more) depth).pos + 1)
      ((before ++ t :: u :: more).length - 1) = before.length + 1 := by
    simp only [place, List.length_append, List.length_cons]
    omega
  unfold peekSecond
  rw [hpos, List.getElem?_append_right (Nat.le_add_right _ 1), Nat.add_sub_cancel_left]
  rfl

theorem discard_advance_place (h : Ahead ts (t :: rest)) (ht : t.token ≠ .eof) :
    (discard (advance ts) : Step Unit) (place ts (t :: rest) depth) =
      some (.ok ((), place ts rest depth)) := by
  show (advance ts (place ts (t :: rest) depth)).bind _ = _
  rw [advance_place h ht]
  rfl

theorem descend_of_lt (hd : depth < depthLimit) :
    descend ts (place ts us depth) = some (.ok ((), place ts us (depth + 1))) := by
  show (if depthLimit < depth + 1 then _ else _ : Step Unit) (place ts us (depth + 1)) = _
  rw [if_neg (by omega)]
  rfl

theorem descend_of_le (h : Ahead ts us) (hd : ¬ depth < depthLimit) :
    descend ts (place ts us depth) = some (.error ⟨lineOf us, .badSyntax .tooDeep⟩) := by
  show (if depthLimit < depth + 1 then _ else _ : Step Unit) (place ts us (depth + 1)) = _
  rw [if_pos (by omega)]
  exact fail_place h .tooDeep

theorem Ahead.expect_place (h : Ahead ts us) (depth : Nat) {token : Token} (wanted : Wanted)
    (hne : token ≠ .eof) :
    expect ts token wanted (place ts us depth) =
      some ((Script.expect token wanted us).map fun r => ((), place ts r.val depth)) := by
  refine (bind_of_ok (peek_place h)).trans ?_
  obtain ⟨t, rest, rfl⟩ := h.exists_cons
  rw [Script.expect]
  show (if t.token = token then _ else _ : Step Unit) _ = _
  by_cases ht : t.token = token
  · rw [if_pos ht, if_pos ht]
    exact discard_advance_place h (ht ▸ hne)
  · rw [if_neg ht, if_neg ht]
    exact fail_place h _

theorem Ahead.of_expect (h : Ahead ts us) {token : Token} (hne : token ≠ .eof) {wanted : Wanted}
    {hlt : rest.length < us.length} (he : Script.expect token wanted us = .ok ⟨rest, hlt⟩) :
    Ahead ts rest := by
  obtain ⟨t, more, rfl⟩ := h.exists_cons
  rw [Script.expect] at he
  split at he
  · rename_i ht
    cases he
    exact h.tail (ht ▸ hne)
  · cases he

end Places

end Cursor

end Gridscript.Script
