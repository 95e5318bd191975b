/-
  Reading with a cursor returns what the readers return.

  Over tokens of which only the last ends the input, each step that reads an expression does what
  the reader does on the tokens ahead: it gives the same fault, or the same expression with the
  cursor behind what was read and the nesting as it was (`Follows`). This is shown of all steps at
  once, by induction on the number of tokens ahead (`Ahead.follows`); the loop over the statements
  comes after (`program_follows`). None of the outcomes is `none`, so no step looks outside of the
  tokens or enters more expressions inside of each other than the nesting allows, and the calls
  inside of each other are never more than linear in the tokens ahead (`reading_returns`).
-/
import Gridscript.Proofs.Script.Cursor

namespace Gridscript.Script

namespace Cursor

/-! ## The cursor follows the readers -/

theorem tokenOf_cons (t : Lexeme) (us : List Lexeme) : tokenOf (t :: us) = t.token := rfl

theorem Ahead.of_reads {ts us rest : List Lexeme} {goal : Goal} {depth : Nat} {e : Expr}
    (h : Ahead ts us) (hr : Reads goal depth us e rest) : Ahead ts rest :=
  h.of_passes hr.passes

/-- What `signed` does after the signs. -/
def signedEnd (ts : List Lexeme) (fuel room base : Nat) (found : List Token) : Step Expr := do
  let e ← indexed ts fuel room
  restore base
  return found.foldl applySign e

/-- What a reader gives, as the cursor has it: the place behind what was read, at a nesting. -/
def landed {α : Type} {P : List Lexeme → Prop} (ts : List Lexeme) (depth : Nat)
    (x : Except Fault (α × { rest : List Lexeme // P rest })) : Except Fault (α × State) :=
  x.map fun r => (r.1, place ts r.2.val depth)

/-- A step after a reader: a fault ends both, and otherwise the step starts where the reader
    ended. -/
theorem bind_landed {α β : Type} {P : List Lexeme → Prop} {ts : List Lexeme} {x : Step α}
    {f : α → Step β} {s : State} {d : Nat}
    {r : Except Fault (α × { rest : List Lexeme // P rest })} {out : Except Fault (β × State)}
    (hx : x s = some (landed ts d r)) (herror : ∀ e, r = .error e → out = .error e)
    (hok : ∀ a rest h, r = .ok (a, ⟨rest, h⟩) → f a (place ts rest d) = some out) :
    (x >>= f) s = some out := by
  cases r with
  | error e => exact (bind_of_error hx).trans (by rw [herror e rfl])
  | ok r => exact (bind_of_ok hx).trans (hok r.1 r.2.val r.2.property rfl)

theorem landed_signed_of_lt {ts more : List Lexeme} {line depth base : Nat} {sign : Token}
    (hs : sign = .minus ∨ sign = .transpose) (hd : depth < depthLimit) (found : List Token) :
    landed ts base ((Script.signed depth (⟨line, sign⟩ :: more)).map
        fun r => (found.foldl applySign r.1, r.2)) =
      landed ts base ((Script.signed (depth + 1) more).map
        fun r => ((sign :: found).foldl applySign r.1, r.2)) := by
  obtain rfl | rfl := hs
  · rw [Script.signed, deepen_of_lt hd]
    dsimp only
    cases Script.signed (depth + 1) more <;> rfl
  · rw [Script.signed, deepen_of_lt hd]
    dsimp only
    cases Script.signed (depth + 1) more <;> rfl

theorem signed_of_le {more : List Lexeme} {line depth : Nat} {sign : Token}
    (hs : sign = .minus ∨ sign = .transpose) (hd : ¬ depth < depthLimit) :
    Script.signed depth (⟨line, sign⟩ :: more) =
      .error ⟨lineOf more, .badSyntax .tooDeep⟩ := by
  obtain rfl | rfl := hs
  · rw [Script.signed, deepen_of_le hd]
  · rw [Script.signed, deepen_of_le hd]

/-- The steps that read expressions do what the readers do where `us` is ahead. A tail leaves the
    nesting at some level; the others leave it as it was. A step either moves the cursor or calls
    one with a lower number, and no number is above 7. -/
structure Follows (ts us : List Lexeme) : Prop where
  chain (level : Level) {fuel depth room : Nat} (hroom : depthLimit ≤ depth + room)
    (hfuel : 8 * us.length + (2 * level.rank + 3) ≤ fuel) :
    Cursor.chain ts fuel level room (place ts us depth) =
      some (landed ts depth (Script.chain level depth us))
  operand (level : Level) {fuel depth room : Nat} (hroom : depthLimit ≤ depth + room)
    (hfuel : 8 * us.length + (2 * level.rank + 2) ≤ fuel) :
    Cursor.operand ts fuel level room (place ts us depth) =
      some (landed ts depth (Script.operand level depth us))
  signed {fuel depth room : Nat} (hroom : depthLimit ≤ depth + room)
    (hfuel : 8 * us.length + 3 ≤ fuel) :
    Cursor.signed ts fuel room (place ts us depth) =
      some (landed ts depth (Script.signed depth us))
  signs (found : List Token) (base : Nat) {fuel fuel' depth room : Nat}
    (hroom : depthLimit ≤ depth + room) (hfuel : 8 * us.length + 2 ≤ fuel)
    (hfuel' : 8 * us.length + 2 ≤ fuel') :
    (Cursor.signs ts fuel found >>= signedEnd ts fuel' room base) (place ts us depth) =
      some (landed ts base ((Script.signed depth us).map fun r => (found.foldl applySign r.1, r.2)))
  indexed {fuel depth room : Nat} (hroom : depthLimit ≤ depth + room)
    (hfuel : 8 * us.length + 2 ≤ fuel) :
    Cursor.indexed ts fuel room (place ts us depth) =
      some (landed ts depth (Script.indexed depth us))
  primary {fuel depth room : Nat} (hroom : depthLimit ≤ depth + room)
    (hfuel : 8 * us.length + 1 ≤ fuel) :
    Cursor.primary ts fuel room (place ts us depth) =
      some (landed ts depth (Script.primary depth us))
  chainTail (level : Level) (lhs : Expr) {fuel depth room : Nat}
    (hroom : depthLimit ≤ depth + room) (hfuel : 8 * us.length + 1 ≤ fuel) :
    ∃ d, Cursor.chainTail ts fuel level room lhs (place ts us depth) =
      some (landed ts d (Script.chainTail level depth lhs us))
  indexTail (target : Expr) {fuel depth room : Nat} (hroom : depthLimit ≤ depth + room)
    (hfuel : 8 * us.length + 1 ≤ fuel) :
    ∃ d, Cursor.indexTail ts fuel room target (place ts us depth) =
      some (landed ts d (Script.indexTail depth target us))

theorem Level.rank_le (level : Level) : level.rank ≤ 2 := by
  cases level <;> decide

section Readers

-- Every reader goes on with fewer tokens, or with the same tokens in another reader; the lemmas
-- stand in the order in which they need each other.
variable {ts us : List Lexeme} {fuel depth room : Nat} (h : Ahead ts us)
  (ih : ∀ vs, Ahead ts vs → vs.length < us.length → Follows ts vs)
  (hroom : depthLimit ≤ depth + room)

include h ih hroom

theorem chainTail_follows (hfuel : 8 * us.length + 1 ≤ fuel) (level : Level) (lhs : Expr) :
    ∃ d, chainTail ts fuel level room lhs (place ts us depth) =
      some (landed ts d (Script.chainTail level depth lhs us)) := by
  obtain ⟨fuel, rfl⟩ : ∃ f, fuel = f + 1 := ⟨fuel - 1, by omega⟩
  rw [chainTail, bind_of_ok (peek_place h)]
  obtain ⟨t, more, rfl⟩ := h.exists_cons
  rw [List.length_cons] at hfuel
  rw [Script.chainTail]
  cases hop : level.operator? t.token with
  | none => exact ⟨depth, by simp only [tokenOf, hop]; rfl⟩
  | some op =>
      have ht := Level.ne_eof_of_operator hop
      have hrank := Level.rank_le level
      have hmore := h.tail ht
      simp only [tokenOf, hop]
      rw [bind_of_ok (discard_advance_place h ht)]
      by_cases hd : depth < depthLimit
      · rw [bind_of_ok (descend_of_lt hd), deepen_of_lt hd]
        have hroom' : depthLimit ≤ depth + 1 + room := by omega
        have hfirst := (ih more hmore (Nat.lt_succ_self _)).operand level hroom'
          (show _ ≤ fuel by omega)
        dsimp only
        cases ho : Script.operand level (depth + 1) more with
        | error f =>
            rw [ho] at hfirst
            exact ⟨depth, bind_of_error hfirst⟩
        | ok out =>
            obtain ⟨rhs, mid, hmid⟩ := out
            rw [ho] at hfirst
            have hrest := hmore.of_reads (reads_operand ⟨hmid, ho⟩)
            obtain ⟨d, htail⟩ := (ih mid hrest (Nat.lt_succ_of_lt hmid)).chainTail level
              (.binary op lhs rhs) hroom' (show _ ≤ fuel by omega)
            refine ⟨d, (bind_of_ok hfirst).trans (htail.trans ?_)⟩
            dsimp only
            cases Script.chainTail level (depth + 1) (.binary op lhs rhs) mid <;> rfl
      · rw [bind_of_error (descend_of_le hmore hd), deepen_of_le hd]
        exact ⟨depth, rfl⟩

/-- A whole expression behind an opening bracket or parenthesis. -/
theorem inner_follows {t : Lexeme} {more : List Lexeme} (hus : us = t :: more)
    (ht : t.token ≠ .eof) (hfuel : 8 * us.length ≤ fuel) (hd : depth < depthLimit) :
    inner (chain ts fuel .sum) room (place ts more (depth + 1)) =
      some (landed ts (depth + 1) (Script.chain .sum (depth + 1) more)) := by
  subst hus
  rw [List.length_cons] at hfuel
  obtain ⟨room, rfl⟩ : ∃ r, room = r + 1 := ⟨room - 1, by omega⟩
  refine (ih more (h.tail ht) (Nat.lt_succ_self _)).chain .sum (by omega) ?_
  simp only [Level.rank]
  omega

theorem indexTail_follows (hfuel : 8 * us.length + 1 ≤ fuel) (target : Expr) :
    ∃ d, indexTail ts fuel room target (place ts us depth) =
      some (landed ts d (Script.indexTail depth target us)) := by
  obtain ⟨fuel, rfl⟩ : ∃ f, fuel = f + 1 := ⟨fuel - 1, by omega⟩
  rw [indexTail, bind_of_ok (peek_place h)]
  obtain ⟨⟨line, token⟩, more, rfl⟩ := h.exists_cons
  by_cases hb : token = .lbracket
  · subst hb
    have hmore : Ahead ts more := h.tail (by simp)
    rw [Script.indexTail, tokenOf_cons, if_pos rfl,
      bind_of_ok (discard_advance_place h (by simp))]
    by_cases hd : depth < depthLimit
    · rw [bind_of_ok (descend_of_lt hd), deepen_of_lt hd]
      have hroom' : depthLimit ≤ depth + 1 + room := by omega
      have hposition :=
        inner_follows h ih hroom rfl (by simp) (Nat.le_of_succ_le_succ hfuel) hd
      rw [List.length_cons] at hfuel
      dsimp only
      cases hc : Script.chain .sum (depth + 1) more with
      | error f =>
          rw [hc] at hposition
          exact ⟨depth, bind_of_error hposition⟩
      | ok out =>
          obtain ⟨position, mid, hmid⟩ := out
          rw [hc] at hposition
          have hrest := hmore.of_reads (reads_chain ⟨hmid, hc⟩)
          have hclose := hrest.expect_place (depth + 1) .closingBracket
            (show Token.rbracket ≠ .eof by simp)
          rw [bind_of_ok hposition]
          dsimp only
          cases he : Script.expect .rbracket .closingBracket mid with
          | error f =>
              rw [he] at hclose
              exact ⟨depth, bind_of_error hclose⟩
          | ok out =>
              obtain ⟨after, hafter⟩ := out
              rw [he] at hclose
              have hahead := hrest.of_expect (by simp) he
              have hlt : after.length < more.length + 1 := by omega
              obtain ⟨d, htail⟩ := (ih after hahead hlt).indexTail (.index target position)
                hroom' (show _ ≤ fuel by omega)
              refine ⟨d, (bind_of_ok hclose).trans (htail.trans ?_)⟩
              dsimp only
              cases Script.indexTail (depth + 1) (.index target position) after <;> rfl
    · rw [bind_of_error (descend_of_le hmore hd), deepen_of_le hd]
      exact ⟨depth, rfl⟩
  · refine ⟨depth, ?_⟩
    rw [tokenOf_cons, if_neg hb, Script.indexTail]
    · rfl
    · rintro l r ⟨rfl, rfl⟩
      exact hb rfl

theorem primary_follows (hfuel : 8 * us.length + 1 ≤ fuel) :
    primary ts fuel room (place ts us depth) =
      some (landed ts depth (Script.primary depth us)) := by
  obtain ⟨fuel, rfl⟩ : ∃ f, fuel = f + 1 := ⟨fuel - 1, by omega⟩
  rw [primary, bind_of_ok (peek_place h)]
  obtain ⟨⟨line, token⟩, more, rfl⟩ := h.exists_cons
  cases token with
  | int n =>
      rw [Script.primary]
      exact bind_of_ok (discard_advance_place h (by simp))
  | ident x =>
      rw [Script.primary]
      exact bind_of_ok (discard_advance_place h (by simp))
  | lparen =>
      have hmore : Ahead ts more := h.tail (by simp)
      rw [Script.primary]
      refine (bind_of_ok (discard_advance_place h (by simp))).trans ?_
      by_cases hd : depth < depthLimit
      · rw [bind_of_ok (descend_of_lt hd), deepen_of_lt hd]
        refine bind_landed
          (inner_follows h ih hroom rfl (by simp) (Nat.le_of_succ_le_succ hfuel) hd) ?_ ?_
        · intro f hc
          dsimp only
          rw [hc]
          rfl
        · intro e mid hmid hc
          have hrest := hmore.of_reads (reads_chain ⟨hmid, hc⟩)
          have hclose := hrest.expect_place (depth + 1) .closingParen
            (show Token.rparen ≠ .eof by simp)
          dsimp only
          rw [hc]
          dsimp only
          cases he : Script.expect .rparen .closingParen mid with
          | error f =>
              rw [he] at hclose
              exact bind_of_error hclose
          | ok out =>
              rw [he] at hclose
              exact bind_of_ok hclose
      · rw [bind_of_error (descend_of_le hmore hd), deepen_of_le hd]
        rfl
  | _ =>
      rw [primary_eq_error (by simp [tokenOf])]
      exact fail_place h _

theorem indexed_follows (hfuel : 8 * us.length + 2 ≤ fuel) :
    indexed ts fuel room (place ts us depth) =
      some (landed ts depth (Script.indexed depth us)) := by
  obtain ⟨fuel, rfl⟩ : ∃ f, fuel = f + 1 := ⟨fuel - 1, by omega⟩
  rw [indexed, Script.indexed]
  refine (bind_of_ok rfl).trans (bind_landed
    (primary_follows h ih hroom (Nat.le_of_succ_le_succ hfuel)) ?_ ?_)
  · intro f hp
    rw [hp]
    rfl
  · intro target mid hmid hp
    have hrest := h.of_reads (reads_primary ⟨hmid, hp⟩)
    obtain ⟨d, htail⟩ := (ih mid hrest hmid).indexTail target hroom (show _ ≤ fuel by omega)
    rw [hp]
    refine bind_landed htail ?_ ?_
    · intro f ht
      dsimp only
      rw [ht]
      rfl
    · intro e rest hrest ht
      dsimp only
      rw [ht]
      rfl

/-- The signs are applied when the operand is known, the last of them first. -/
theorem signs_follows {fuel' : Nat} (hfuel : 8 * us.length + 2 ≤ fuel)
    (hfuel' : 8 * us.length + 2 ≤ fuel') (found : List Token) (base : Nat) :
    (signs ts fuel found >>= signedEnd ts fuel' room base) (place ts us depth) =
      some (landed ts base
        ((Script.signed depth us).map fun r => (found.foldl applySign r.1, r.2))) := by
  obtain ⟨fuel, rfl⟩ : ∃ f, fuel = f + 1 := ⟨fuel - 1, by omega⟩
  rw [signs, bind_assoc, bind_of_ok (peek_place h)]
  by_cases hs : tokenOf us = .minus ∨ tokenOf us = .transpose
  · rw [if_pos hs]
    obtain ⟨⟨line, token⟩, more, rfl⟩ := h.exists_cons
    rw [tokenOf_cons] at hs ⊢
    rw [List.length_cons] at hfuel hfuel'
    have ht : token ≠ .eof := by obtain rfl | rfl := hs <;> simp
    have hmore : Ahead ts more := h.tail ht
    rw [bind_assoc, bind_of_ok (discard_advance_place h ht), bind_assoc]
    by_cases hd : depth < depthLimit
    · rw [bind_of_ok (descend_of_lt hd), landed_signed_of_lt hs hd]
      exact (ih more hmore (Nat.lt_succ_self _)).signs (token :: found) base (by omega) (by omega)
        (by omega)
    · rw [bind_of_error (descend_of_le hmore hd), signed_of_le hs hd]
      rfl
  · rw [if_neg hs, signed_eq_indexed (fun hm => hs (.inl hm)) (fun ht => hs (.inr ht))]
    refine (bind_of_ok rfl).trans (bind_landed (indexed_follows h ih hroom hfuel') ?_ ?_)
    · intro f hi
      rw [hi]
      rfl
    · intro e rest hrest hi
      rw [hi]
      rfl

theorem signed_follows (hfuel : 8 * us.length + 3 ≤ fuel) :
    signed ts fuel room (place ts us depth) =
      some (landed ts depth (Script.signed depth us)) := by
  obtain ⟨fuel, rfl⟩ : ∃ f, fuel = f + 1 := ⟨fuel - 1, by omega⟩
  have hfuel := Nat.le_of_succ_le_succ hfuel
  rw [signed]
  refine (bind_of_ok rfl).trans ?_
  show (signs ts fuel [] >>= signedEnd ts fuel room depth) (place ts us depth) = _
  rw [signs_follows h ih hroom hfuel hfuel]
  cases Script.signed depth us <;> rfl

/-- A chain, once its operands are followed. -/
theorem chain_follows_of_operand (level : Level) (hfuel : 8 * us.length ≤ fuel)
    (hoperand : operand ts fuel level room (place ts us depth) =
      some (landed ts depth (Script.operand level depth us))) :
    chain ts (fuel + 1) level room (place ts us depth) =
      some (landed ts depth (Script.chain level depth us)) := by
  rw [chain, Script.chain]
  refine (bind_of_ok rfl).trans (bind_landed hoperand ?_ ?_)
  · intro f ho
    rw [ho]
    rfl
  · intro lhs mid hmid ho
    have hrest := h.of_reads (reads_operand ⟨hmid, ho⟩)
    obtain ⟨d, htail⟩ :=
      (ih mid hrest hmid).chainTail level lhs hroom (show _ ≤ fuel by omega)
    rw [ho]
    refine bind_landed htail ?_ ?_
    · intro f ht
      dsimp only
      rw [ht]
      rfl
    · intro e rest hrest ht
      dsimp only
      rw [ht]
      rfl

theorem operand_follows (level : Level) (hfuel : 8 * us.length + (2 * level.rank + 2) ≤ fuel) :
    operand ts fuel level room (place ts us depth) =
      some (landed ts depth (Script.operand level depth us)) := by
  have hproduct {fuel : Nat} (hfuel : 8 * us.length + 4 ≤ fuel) :
      operand ts fuel .product room (place ts us depth) =
        some (landed ts depth (Script.operand .product depth us)) := by
    obtain ⟨fuel, rfl⟩ : ∃ f, fuel = f + 1 := ⟨fuel - 1, by omega⟩
    rw [operand, Script.operand]
    exact signed_follows h ih hroom (Nat.le_of_succ_le_succ hfuel)
  cases level with
  | product => exact hproduct hfuel
  | sum =>
      have hfuel : 8 * us.length + 6 ≤ fuel := hfuel
      obtain ⟨fuel, rfl⟩ : ∃ f, fuel = f + 1 + 1 := ⟨fuel - 2, by omega⟩
      rw [operand, Script.operand]
      exact chain_follows_of_operand h ih hroom .product (by omega) (hproduct (by omega))

theorem chain_follows (level : Level) (hfuel : 8 * us.length + (2 * level.rank + 3) ≤ fuel) :
    chain ts fuel level room (place ts us depth) =
      some (landed ts depth (Script.chain level depth us)) := by
  obtain ⟨fuel, rfl⟩ : ∃ f, fuel = f + 1 := ⟨fuel - 1, by omega⟩
  exact chain_follows_of_operand h ih hroom level (by omega)
    (operand_follows h ih hroom level (by omega))

end Readers

theorem Ahead.follows {ts us : List Lexeme} (h : Ahead ts us) : Follows ts us := by
  induction hn : us.length using Nat.strongRecOn generalizing us with
  | ind n ih =>
      have ih : ∀ vs, Ahead ts vs → vs.length < us.length → Follows ts vs :=
        fun vs hvs hlt => ih vs.length (hn ▸ hlt) hvs rfl
      exact {
        chain := fun level _ _ _ hroom hfuel => chain_follows h ih hroom level hfuel
        operand := fun level _ _ _ hroom hfuel => operand_follows h ih hroom level hfuel
        signed := signed_follows h ih
        signs := fun found base _ _ _ _ hroom hfuel hfuel' =>
          signs_follows h ih hroom hfuel hfuel' found base
        indexed := indexed_follows h ih
        primary := primary_follows h ih
        chainTail := fun level lhs _ _ _ hroom hfuel =>
          chainTail_follows h ih hroom hfuel level lhs
        indexTail := fun target _ _ _ hroom hfuel => indexTail_follows h ih hroom hfuel target }

/-! ## The statement loop -/

section Statements

variable {ts us : List Lexeme} {fuel room : Nat}

/-- An expression, and what a statement makes of it. -/
theorem bind_chain_follows (h : Ahead ts us) (hroom : depthLimit ≤ room)
    (hfuel : 8 * us.length + 7 ≤ fuel) (k : Expr → Statement) :
    (chain ts fuel .sum room >>= fun e => (return k e : Step Statement)) (place ts us 0) =
      some (landed ts 0 ((Script.chain .sum 0 us).map fun r => (k r.1, r.2))) := by
  refine bind_landed (h.follows.chain .sum (by omega) hfuel) ?_ ?_
  · intro f hc
    rw [hc]
    rfl
  · intro e rest hrest hc
    rw [hc]
    rfl

theorem statement_follows {t : Lexeme} (h : Ahead ts (t :: us)) (ht : t.token ≠ .eof)
    (hroom : depthLimit ≤ room) (hfuel : 8 * (us.length + 1) + 7 ≤ fuel) :
    statement ts fuel room (place ts (t :: us) 0) =
      some (landed ts 0 (Script.statement (t :: us))) := by
  rw [statement, bind_of_ok (next_place h), bind_of_ok (peekSecond_place h ht)]
  have hmore : Ahead ts us := h.tail ht
  have hdisplay (hp : tokenOf (t :: us) ≠ .persistent)
      (ha : ∀ l x l' more, t :: us ≠ ⟨l, .ident x⟩ :: ⟨l', .assign⟩ :: more) :
      (chain ts fuel .sum room >>= fun e => (return ⟨t.line, .display e⟩ : Step Statement))
        (place ts (t :: us) 0) = some (landed ts 0 (Script.statement (t :: us))) := by
    rw [bind_chain_follows h hroom hfuel, statement_eq_display hp ha]
    cases Script.chain .sum 0 (t :: us) <;> rfl
  obtain ⟨line, token⟩ := t
  cases token with
  | eof => exact absurd rfl ht
  | persistent =>
      refine (bind_of_ok (discard_advance_place h ht)).trans ?_
      obtain ⟨⟨line', second⟩, more, rfl⟩ := hmore.exists_cons
      cases second with
      | ident x => exact bind_of_ok (advance_place hmore (by simp))
      | _ =>
          obtain ⟨s, hs⟩ := exists_advance hmore
          exact bind_of_ok hs
  | ident x =>
      obtain ⟨⟨line', second⟩, more, rfl⟩ := hmore.exists_cons
      by_cases hsecond : second = .assign
      · subst hsecond
        rw [List.length_cons] at hfuel
        refine (bind_of_ok (discard_advance_place h ht)).trans ?_
        refine (bind_of_ok (discard_advance_place hmore (by simp))).trans ?_
        rw [bind_chain_follows (hmore.tail (by simp)) hroom (by omega), Script.statement]
        cases Script.chain .sum 0 more <;> rfl
      · show (if second = .assign then _ else _ : Step Statement) _ = _
        rw [if_neg hsecond]
        refine hdisplay (by simp [tokenOf]) ?_
        rintro l y l' after ⟨rfl, rfl⟩
        exact hsecond rfl
  | _ => exact hdisplay (by simp [tokenOf]) (by simp)

/-- What the loop does after a statement. -/
def afterStatement (ts : List Lexeme) (fuel room : Nat) (done : Program) (s : Statement) :
    Step Program := do
  let t ← peek ts
  if t = .newline ∨ t = .eof then program ts fuel room (done ++ [s])
  else fail ts (.expected .endOfStatement t)

theorem program_cons {t : Lexeme} (h : Ahead ts (t :: us)) (he : t.token ≠ .eof)
    (hn : t.token ≠ .newline) (done : Program) :
    program ts (fuel + 1) room done (place ts (t :: us) 0) =
      (statement ts fuel room >>= afterStatement ts fuel room done) (place ts (t :: us) 0) := by
  rw [program, bind_of_ok (peek_place h)]
  obtain ⟨line, token⟩ := t
  cases token with
  | eof => exact absurd rfl he
  | newline => exact absurd rfl hn
  | _ => rfl

/-- The loop over the statements ends, and it ends on the last token. -/
theorem program_follows (h : Ahead ts us) (hroom : depthLimit ≤ room)
    (hfuel : 8 * us.length + 8 ≤ fuel) (done : Program) :
    program ts fuel room done (place ts us 0) =
      some ((statements us).map fun p => (done ++ p, ⟨ts.length - 1, 0⟩)) := by
  obtain ⟨fuel, rfl⟩ : ∃ f, fuel = f + 1 := ⟨fuel - 1, by omega⟩
  have hfuel := Nat.le_of_succ_le_succ hfuel
  fun_induction statements us generalizing fuel done with
  | case1 => exact absurd rfl h.closes.ne_nil
  | case2 line rest =>
      rw [program, bind_of_ok (peek_place h)]
      cases h.closes.eq_nil_of_eof rfl
      show some (Except.ok (done, _)) = some (Except.ok (done ++ [], _))
      rw [List.append_nil]
      rfl
  | case3 line rest ih =>
      rw [List.length_cons] at hfuel
      obtain ⟨fuel, rfl⟩ : ∃ f, fuel = f + 1 := ⟨fuel - 1, by omega⟩
      rw [program, bind_of_ok (peek_place h)]
      refine (bind_of_ok (discard_advance_place h (by simp))).trans ?_
      exact ih (h.tail (by simp)) done fuel (by omega) (by omega)
  | case4 t rest hne hne' f hs =>
      have he : t.token ≠ .eof := fun he => hne t.line (he ▸ rfl)
      have hn : t.token ≠ .newline := fun hn => hne' t.line (hn ▸ rfl)
      rw [program_cons h he hn]
      refine bind_of_error ?_
      rw [statement_follows h he hroom hfuel, hs]
      rfl
  | case5 t rest hne hne' st after hlt hs hend ih =>
      have he : t.token ≠ .eof := fun he => hne t.line (he ▸ rfl)
      have hn : t.token ≠ .newline := fun hn => hne' t.line (hn ▸ rfl)
      have hst := statement_follows h he hroom hfuel
      have hafter := h.of_passes (passes_of_statement hs)
      rw [List.length_cons] at hfuel hlt
      obtain ⟨fuel, rfl⟩ : ∃ f, fuel = f + 1 := ⟨fuel - 1, by omega⟩
      rw [hs] at hst
      rw [program_cons h he hn, bind_of_ok hst, afterStatement, bind_of_ok (peek_place hafter),
        if_pos hend, ih hafter _ fuel (by omega) (by omega)]
      cases statements after <;> simp [Except.map]
  | case6 t rest hne hne' st after hlt hs hend =>
      have he : t.token ≠ .eof := fun he => hne t.line (he ▸ rfl)
      have hn : t.token ≠ .newline := fun hn => hne' t.line (hn ▸ rfl)
      have hst := statement_follows h he hroom hfuel
      have hafter := h.of_passes (passes_of_statement hs)
      rw [hs] at hst
      rw [program_cons h he hn, bind_of_ok hst, afterStatement, bind_of_ok (peek_place hafter),
        if_neg hend]
      exact fail_place hafter _

end Statements

/-! ## Reading always returns -/

theorem Closes.of_suffix {ts us : List Lexeme} (h : Closes ts) (hus : us <:+ ts) (hne : us ≠ []) :
    Closes us := by
  obtain ⟨body, line, rfl, hbody⟩ := h
  obtain ⟨before, hbefore⟩ := hus
  rw [← List.dropLast_append_getLast hne, ← List.append_assoc] at hbefore
  obtain ⟨hinit, hlast⟩ := List.append_inj' hbefore rfl
  refine ⟨us.dropLast, line, ?_, fun t ht => hbody t ?_⟩
  · rw [← hlast, List.dropLast_append_getLast]
  · rw [← hinit]
    exact List.mem_append_right before ht

theorem ahead_drop {ts : List Lexeme} (h : Closes ts) {pos : Nat} (hpos : pos < ts.length) :
    Ahead ts (ts.drop pos) := by
  refine ⟨List.drop_suffix pos ts, Closes.of_suffix h (List.drop_suffix pos ts) ?_⟩
  rw [ne_eq, List.drop_eq_nil_iff]
  omega

theorem place_drop {ts : List Lexeme} {pos : Nat} (hpos : pos < ts.length) (depth : Nat) :
    place ts (ts.drop pos) depth = ⟨pos, depth⟩ := by
  rw [place, List.length_drop, Nat.sub_sub_self (Nat.le_of_lt hpos)]

end Cursor

/-- The step that reads a category of expressions. -/
def Category.step (ts : List Lexeme) (fuel room : Nat) : Category → Cursor.Step Expr
  | expr => Cursor.chain ts fuel .sum room
  | term => Cursor.chain ts fuel .product room
  | unary => Cursor.signed ts fuel room
  | indexed => Cursor.indexed ts fuel room
  | primary => Cursor.primary ts fuel room

/-- The reader of a category of expressions. -/
def Category.reader (depth : Nat) (us : List Lexeme) : Category → Except Fault (Parsed us)
  | expr => Script.chain .sum depth us
  | term => Script.chain .product depth us
  | unary => Script.signed depth us
  | indexed => Script.indexed depth us
  | primary => Script.primary depth us

namespace Cursor

theorem step_follows {ts us : List Lexeme} {fuel depth room : Nat} (h : Ahead ts us)
    (hroom : depthLimit ≤ depth + room) (hfuel : 8 * us.length + 7 ≤ fuel)
    (category : Category) :
    category.step ts fuel room (place ts us depth) =
      some (landed ts depth (category.reader depth us)) := by
  cases category with
  | expr => exact h.follows.chain .sum hroom hfuel
  | term => exact h.follows.chain .product hroom (by simp only [Level.rank]; omega)
  | unary => exact h.follows.signed hroom (by omega)
  | indexed => exact h.follows.indexed hroom (by omega)
  | primary => exact h.follows.primary hroom (by omega)

theorem passes_of_reader {us rest : List Lexeme} {depth : Nat} {category : Category} {e : Expr}
    {hlt : rest.length < us.length} (h : category.reader depth us = .ok (e, ⟨rest, hlt⟩)) :
    Passes us rest := by
  cases category with
  | expr => exact (reads_chain ⟨hlt, h⟩).passes
  | term => exact (reads_chain ⟨hlt, h⟩).passes
  | unary => exact (reads_signed ⟨hlt, h⟩).passes
  | indexed => exact (reads_indexed ⟨hlt, h⟩).passes
  | primary => exact (reads_primary ⟨hlt, h⟩).passes

/-- Where the last token is the only one that ends the input, every step that reads an expression
    returns what the reader returns. If it succeeds, the cursor has moved ahead and is not past
    the last token, and the nesting is what it was. Room for `depthLimit` expressions inside of
    each other is enough, and so is a number of calls linear in the tokens that are left. The loop
    over the statements returns the program in the same way. -/
theorem reading_returns (ts : List Lexeme) (h : Closes ts) :
    (∀ (category : Category) (fuel room pos depth : Nat), pos < ts.length →
      depthLimit ≤ depth + room → 8 * (ts.length - pos) + 7 ≤ fuel →
      ∃ outcome, category.step ts fuel room ⟨pos, depth⟩ = some outcome ∧
        outcome.map Prod.fst = (category.reader depth (ts.drop pos)).map Prod.fst ∧
        ∀ e s, outcome = .ok (e, s) → pos < s.pos ∧ s.pos < ts.length ∧ s.depth = depth) ∧
    ∀ fuel, 8 * ts.length + 8 ≤ fuel →
      ∃ outcome, program ts fuel depthLimit [] ⟨0, 0⟩ = some outcome ∧
        outcome.map Prod.fst = statements ts := by
  refine ⟨fun category fuel room pos depth hpos hroom hfuel => ?_, fun fuel hfuel => ?_⟩
  · have hahead := ahead_drop h hpos
    rw [← List.length_drop] at hfuel
    have hstep := step_follows hahead hroom hfuel category
    rw [place_drop hpos] at hstep
    refine ⟨_, hstep, ?_, fun e s hs => ?_⟩
    · cases category.reader depth (ts.drop pos) <;> rfl
    · cases hr : category.reader depth (ts.drop pos) with
      | error f =>
          rw [hr] at hs
          cases hs
      | ok out =>
          obtain ⟨e', rest, hlt⟩ := out
          rw [hr] at hs
          cases hs
          have hrest := (hahead.of_passes (passes_of_reader hr)).closes.ne_nil
          have hlen := List.length_pos_iff.2 hrest
          rw [List.length_drop] at hlt
          show pos < ts.length - rest.length ∧ ts.length - rest.length < ts.length ∧ _
          exact ⟨by omega, by omega, rfl⟩
  · have hlen := List.length_pos_iff.2 h.ne_nil
    have hprogram := program_follows (ahead_drop h hlen) (Nat.le_refl depthLimit) hfuel []
    rw [place_drop hlen, List.drop_zero] at hprogram
    refine ⟨_, hprogram, ?_⟩
    cases statements ts <;> rfl

/-- A name in parentheses. -/
def enclosedName : List Lexeme := [⟨1, .lparen⟩, ⟨1, .ident "x"⟩, ⟨1, .rparen⟩, ⟨1, .eof⟩]

/-- One level of nesting and the room for one expression are left, and the parentheses take
    both. -/
theorem reading_returns_enclosedName :
    Closes enclosedName ∧
      ∃ s, Category.primary.step enclosedName 39 1 ⟨0, 255⟩ = some (.ok (.var "x", s)) ∧
        0 < s.pos ∧ s.pos < 4 ∧ s.depth = 255 := by
  have hclosed : Closes enclosedName :=
    ⟨[⟨1, .lparen⟩, ⟨1, .ident "x"⟩, ⟨1, .rparen⟩], 1, rfl, by simp⟩
  obtain ⟨outcome, hstep, hreader, hstate⟩ :=
    (reading_returns enclosedName hclosed).1 .primary 39 1 0 255 (by decide) (by decide)
      (by decide)
  have hname : Reads (.chain .sum) 256 [⟨1, .ident "x"⟩, ⟨1, .rparen⟩, ⟨1, .eof⟩] (.var "x")
      [⟨1, .rparen⟩, ⟨1, .eof⟩] :=
    .chain (.factor (.chain (.atom (.bare (by decide) (by decide)
      (.indexed .var (.indexEnd (by decide))))) (.chainEnd rfl))) (.chainEnd rfl)
  have henclosed : Reads .primary 255 enclosedName _ _ := .paren (by decide) hname
  obtain ⟨hlt, hread⟩ := henclosed.yields
  have hvalue : outcome.map Prod.fst = .ok (.var "x") :=
    hreader.trans (congrArg (Except.map Prod.fst) hread)
  obtain ⟨⟨_, s⟩, rfl, rfl⟩ := (Outcome.map_eq_ok_iff _ _ _).1 hvalue
  exact ⟨hclosed, s, hstep, hstate _ s rfl⟩

end Cursor

end Gridscript.Script
