/-
  Sets of characters in brackets.

  A set is a union of characters, ranges, named classes and further sets in brackets. Operators
  (`&&`, `--`, `~~`) join all that stands on their left with the union on their right. What is
  open is kept on a stack: brackets with the union around them, and operators with their left
  side.
-/
import Gridscript.Pattern.Escape

namespace Gridscript.Pattern

/-- A union that is being read, its last item first. -/
structure Union where
  span : Span
  items : List SetTree

namespace Union

def start (c : Cursor) : Union := ⟨c.here, []⟩

def push (u : Union) (s : SetTree) : Union where
  span := ⟨if u.items.isEmpty then s.span.start else u.span.start, s.span.stop⟩
  items := s :: u.items

def tree (u : Union) : SetTree :=
  match u.items with
  | [] => .empty u.span
  | [s] => s
  | items => .union u.span items.reverse

end Union

/-- What is open around the union that is being read. -/
inductive Pending where
  | bracket (around : Union) (span : Span) (negated : Bool)
  | op (op : SetOp) (left : SetTree)

/-- The set so far, with the pending operator applied. -/
def joined (pending : List Pending) (right : SetTree) : SetTree × List Pending :=
  match pending with
  | .op op left :: rest => (.op ⟨left.span.start, right.span.stop⟩ op left right, rest)
  | _ => (right, pending)

/-- The innermost bracket is not closed. -/
def unclosed {α : Type} (c : Cursor) : List Pending → Except Fault α
  | .bracket _ span _ :: _ => fail .setUnclosed span
  | .op _ _ :: rest => unclosed c rest
  | [] => fail .setUnclosed c.here

/-- Dashes at the start of a set stand for themselves. -/
def leadingDashes : Nat → Union → Cursor → Union × Cursor
  | 0, u, c => (u, c)
  | n + 1, u, c =>
      if c.current? = some '-' then
        leadingDashes n (u.push (.char ⟨c.one, '-', false⟩)) c.advance
      else (u, c)

/-- Open the bracket that the cursor is at: its span so far, whether the set is turned around,
    and what stands for itself at its start. -/
def openBracket (c : Cursor) : Except Fault (Span × Bool × Union × Cursor) :=
  let start := c.pos
  let c := c.advance
  if c.atEnd then fail .setUnclosed (c.since start)
  else
    let negated := c.current? = some '^'
    let c := if negated then c.advance else c
    if c.atEnd then fail .setUnclosed (c.since start)
    else
      let (u, c) := leadingDashes c.rest.length (Union.start c) c
      if c.atEnd then fail .setUnclosed ⟨start, start⟩
      else if u.items.isEmpty ∧ c.current? = some ']' then
        let u := u.push (.char ⟨c.one, ']', false⟩)
        let c := c.advance
        if c.atEnd then fail .setUnclosed (c.since start)
        else .ok (c.since start, negated, u, c)
      else .ok (c.since start, negated, u, c)

/-- The named class that the cursor is at, if there is one, such as `[:alpha:]`. -/
def asciiClass? (c : Cursor) : Option (SetTree × Cursor) :=
  match c.rest with
  | '[' :: ':' :: rest =>
      let negated := rest.head? = some '^'
      let rest := if negated then rest.drop 1 else rest
      let name := rest.takeWhile (· != ':')
      match rest.dropWhile (· != ':') with
      | ':' :: ']' :: _ =>
          (AsciiClass.ofName? name).map fun found =>
            let last := Cursor.bumps (name.length + 4 + (if negated then 1 else 0)) c
            (.ascii (last.since c.pos) negated found, last)
      | _ => none
  | _ => none

/-- One end of a range, or an item of its own. -/
def setAtom (c : Cursor) : Except Fault (Atom × Cursor) :=
  match c.current? with
  | some '\\' => escape c
  | some x => .ok (.char ⟨c.one, x, false⟩, c.bump)
  | none => fail .setUnclosed c.here

/-- The atom as an item of a set. -/
def Atom.item : Atom → Except Fault SetTree
  | char l => .ok (.char l)
  | set s => .ok s
  | other => fail .setEscape other.span

/-- The atom as an end of a range. -/
def Atom.bound : Atom → Except Fault Literal
  | char l => .ok l
  | other => fail .setRangeEnd other.span

/-- The item or range that the cursor is at. A dash before a bracket or a dash makes no range. -/
def rangeOrItem (pending : List Pending) (c : Cursor) : Except Fault (SetTree × Cursor) := do
  let (first, c) ← setAtom c
  let c := c.skip
  if c.atEnd then unclosed c pending
  else if c.current? ≠ some '-' ∨ c.second? = some ']' ∨ c.second? = some '-' then
    return (← first.item, c)
  else
    let c := c.advance
    if c.atEnd then unclosed c pending
    else
      let (last, c) ← setAtom c
      let low ← first.bound
      let high ← last.bound
      if low.char ≤ high.char then return (.range low high, c)
      else fail .setRangeOrder ⟨low.span.start, high.span.stop⟩

/-- Where the reading of a set has come to. -/
inductive SetProgress where
  | more (pending : List Pending) (u : Union) (c : Cursor)
  | done (s : SetTree) (c : Cursor)

/-- Take up an operator of some characters. -/
def takeOp (op : SetOp) (pending : List Pending) (u : Union) (c : Cursor) : SetProgress :=
  let (left, pending) := joined pending u.tree
  let c := c.bumps 2
  .more (.op op left :: pending) (Union.start c) c

/-- Open a bracket inside of what is open. -/
def takeOpen (pending : List Pending) (u : Union) (c : Cursor) : Except Fault SetProgress := do
  let (span, negated, inner, c) ← openBracket c
  return .more (.bracket u span negated :: pending) inner c

/-- Close the innermost bracket. -/
def takeClose (pending : List Pending) (u : Union) (c : Cursor) : Except Fault SetProgress :=
  let (inner, pending) := joined pending u.tree
  let last := c.bump
  match pending with
  | .bracket around span negated :: rest =>
      let s : SetTree := .bracket (last.since span.start) negated inner
      if rest.isEmpty then .ok (.done s last) else .ok (.more rest (around.push s) last)
  | _ => unclosed c pending

/-- Read on by one item. -/
def setStep (pending : List Pending) (u : Union) (c : Cursor) : Except Fault SetProgress :=
  let c := c.skip
  match c.rest with
  | [] => unclosed c pending
  | '[' :: _ =>
      match (if pending.isEmpty then none else asciiClass? c) with
      | some (s, last) => .ok (.more pending (u.push s) last)
      | none => takeOpen pending u c
  | ']' :: _ => takeClose pending u c
  | '&' :: '&' :: _ => .ok (takeOp .inter pending u c)
  | '-' :: '-' :: _ => .ok (takeOp .diff pending u c)
  | '~' :: '~' :: _ => .ok (takeOp .symmDiff pending u c)
  | _ => do
      let (s, last) ← rangeOrItem pending c
      return .more pending (u.push s) last

/-- Read a set to its end. Each step takes at least one character. -/
def readSet (pending : List Pending) (u : Union) (c : Cursor) : Except Fault (SetTree × Cursor) :=
  match setStep pending u c with
  | .error f => .error f
  | .ok (.done s last) => .ok (s, last)
  | .ok (.more pending u next) =>
      if next.rest.length < c.rest.length then readSet pending u next
      else unclosed next pending
termination_by c.rest.length

/-- The set whose bracket the cursor is at. -/
def bracketed (c : Cursor) : Except Fault (SetTree × Cursor) := readSet [] (Union.start c) c

end Gridscript.Pattern
