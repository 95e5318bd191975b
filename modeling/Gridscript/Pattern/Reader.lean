/-
  The tree that the text of a pattern stands for.

  The text is read item by item. What is open is kept on a stack: for each group the part of the
  pattern around it. A group ends at its parenthesis, the pattern at the end of its text, and
  within both a bar ends a branch.
-/
import Gridscript.Pattern.Bracket
import Gridscript.Text.Letter
import Gridscript.Text.Numeral

namespace Gridscript.Pattern

/-! ## Counts -/

/-- Numbers of repetitions are below this. -/
def countLimit : Nat := 0x100000000

/-- The number that the cursor is at, with blanks around it. -/
def number (c : Cursor) : Except Fault Nat × Cursor :=
  let (_, c) := c.run Text.isBlank
  let (digits, stop) := c.run Char.isDigit
  let (_, last) := stop.run Text.isBlank
  let n := digits.foldl (fun n d => n * 10 + (d.toNat - '0'.toNat)) 0
  if digits = [] then (fail .countMissing (stop.since c.pos), last)
  else if n < countLimit then (.ok n, last)
  else (fail .countTooLarge (stop.since c.pos), last)

/-- The numbers in the braces that the cursor is in, after the opening one at `start`. -/
def countBounds (start : Pos) (c : Cursor) : Except Fault (Nat × Option Nat × Cursor) := do
  let (least, c) := number c
  if c.atEnd then fail .countUnclosed (c.since start)
  else if c.current? = some ',' then
    let c := c.advance
    if c.atEnd then fail .countUnclosed (c.since start)
    else if c.current? = some '\x7d' then return (← least, none, c)
    else
      let least ← least
      let (most, c) := number c
      return (least, some (← most), c)
  else
    let least ← least
    return (least, some least, c)

/-- The question mark after the sign for a repetition, if it stands there. -/
def lazyMark (c : Cursor) : Bool × Cursor :=
  if c.current? = some '?' then (true, c.bump) else (false, c)

/-- The count whose opening brace the cursor is at, and whether it is lazy. -/
def count (c : Cursor) : Except Fault (Nat × Option Nat × Bool × Cursor) := do
  let start := c.pos
  let c := c.advance
  if c.atEnd then fail .countUnclosed (c.since start)
  else
    let (least, most, c) ← countBounds start c
    if c.current? ≠ some '\x7d' then fail .countUnclosed (c.since start)
    else
      let (lazy, c) := lazyMark c.advance
      if most.any (· < least) then fail .countOrder (c.since start)
      else return (least, most, lazy, c)

/-! ## Flags -/

def flagOf? : Char → Option Flag
  | 'i' => some .caseless
  | 'm' => some .lines
  | 's' => some .dotAll
  | 'U' => some .greedySwap
  | 'u' => some .unicode
  | 'R' => some .crlf
  | 'x' => some .free
  | _ => none

/-- The flags that the cursor is at, up to the colon or parenthesis after them; a dash is no
    flag. The last one read comes first in `read`. -/
def flagItems : Nat → (read : List (Option Flag × Span)) → Cursor →
    Except Fault (List (Option Flag × Span) × Cursor)
  | 0, _, c => fail .flagUnfinished c.here
  | n + 1, read, c =>
      match c.current? with
      | none => fail .flagUnfinished c.here
      | some x =>
          if x = ':' ∨ x = ')' then
            match read with
            | (none, span) :: _ => fail .flagNegationDangling span
            | _ => .ok (read.reverse, c)
          else
            let flag := flagOf? x
            if x ≠ '-' ∧ flag.isNone then fail .flagUnknown c.one
            else
              match read.find? (·.1 = flag) with
              | some (_, earlier) =>
                  let issue : Issue := if x = '-' then .flagNegationTwice else .flagTwice
                  .error ⟨issue, c.one, some earlier⟩
              | none =>
                  let next := c.bump
                  if next.atEnd then fail .flagUnfinished next.here
                  else flagItems n ((flag, c.one) :: read) next

/-- Flags before a dash are switched on, those after it off. -/
def flagChange (on : Bool) : List (Option Flag × Span) → FlagChange
  | [] => []
  | (none, _) :: rest => flagChange false rest
  | (some flag, _) :: rest => (flag, on) :: flagChange on rest

/-! ## Group names -/

/-- The character may stand in the name of a group. -/
def inGroupName (first : Bool) (c : Char) : Bool :=
  c == '_' || Text.isLetter c ||
    (!first && (c == '.' || c == '[' || c == ']' || Text.isNumeral c))

/-- The characters of a name up to the bracket that ends it. -/
def groupNameChars : Nat → (first : Bool) → Cursor → Except Fault (List Char × Cursor)
  | 0, _, c => .ok ([], c)
  | n + 1, first, c =>
      match c.current? with
      | none => .ok ([], c)
      | some '>' => .ok ([], c)
      | some x =>
          if inGroupName first x then do
            let (xs, last) ← groupNameChars n false c.bump
            return (x :: xs, last)
          else fail .groupNameCharacter c.one

/-- The name of a group, which may not be one of those given before. -/
def groupName (names : List (List Char × Span)) (c : Cursor) :
    Except Fault (List Char × Span × Cursor) := do
  if c.atEnd then fail .groupNameUnfinished c.here
  else
    let (name, stop) ← groupNameChars (c.rest.length + 1) true c
    let span := stop.since c.pos
    if stop.atEnd then fail .groupNameUnfinished stop.here
    else if name = [] then fail .groupNameEmpty c.here
    else
      match names.lookup name with
      | some earlier => .error ⟨.groupNameTwice, span, some earlier⟩
      | none => return (name, span, stop.bump)

/-! ## Groups and branches -/

/-- The branch that is being read, its last item first, with the branches before it, the last of
    them first. -/
structure Branches where
  start : Pos
  finished : List Tree
  branchStart : Pos
  items : List (Pos × Tree)

namespace Branches

def opening (c : Cursor) : Branches := ⟨c.pos, [], c.pos, []⟩

def push (b : Branches) (start : Pos) (t : Tree) : Branches :=
  { b with items := (start, t) :: b.items }

/-- The tree of the branch that is being read. -/
def branch (b : Branches) (stop : Pos) : Tree :=
  match b.items with
  | [] => .empty
  | [(_, t)] => t
  | items => .seq ⟨b.branchStart, stop⟩ (items.reverse.map (·.2))

/-- End a branch at a bar, after which the next one starts. -/
def bar (b : Branches) (stop next : Pos) : Branches :=
  { b with finished := b.branch stop :: b.finished, branchStart := next, items := [] }

/-- The tree of all branches. -/
def tree (b : Branches) (stop : Pos) : Tree :=
  match b.finished with
  | [] => b.branch stop
  | finished => .alt ⟨b.start, stop⟩ (b.branch stop :: finished).reverse

end Branches

/-- An open group: what stands around it, its parenthesis, its number, its flags, and whether the
    text around it is laid out freely. -/
structure OpenGroup where
  around : Branches
  paren : Span
  number : Option Nat
  change : FlagChange
  free : Bool

/-- Where the reading of a pattern has come to, and how many groups have got a number. -/
structure Reading where
  opened : List OpenGroup
  branches : Branches
  names : List (List Char × Span)
  numbered : Nat
  cursor : Cursor

namespace Reading

def start (text : List Char) : Reading :=
  let c := Cursor.ofText text
  ⟨[], Branches.opening c, [], 0, c⟩

/-- Go on inside of a group. -/
def enter (r : Reading) (paren : Span) (number : Option Nat) (change : FlagChange) (c : Cursor) :
    Reading :=
  let free := (change.lookup .free).getD c.free
  let inner := { c with free := free }
  { r with
    opened := ⟨r.branches, paren, number, change, c.free⟩ :: r.opened
    branches := Branches.opening inner
    cursor := inner }

/-- Go on inside of a group that gets the next number. -/
def enterNumbered (r : Reading) (paren : Span) (c : Cursor) : Reading :=
  { r with numbered := r.numbered + 1 }.enter paren (some (r.numbered + 1)) [] c

/-- The number of characters of a sign that would look around, with the cursor after the
    parenthesis. -/
def lookaround? : List Char → Option Nat
  | '?' :: '=' :: _ => some 2
  | '?' :: '!' :: _ => some 2
  | '?' :: '<' :: '=' :: _ => some 3
  | '?' :: '<' :: '!' :: _ => some 3
  | _ => none

/-- Flags, with the cursor at the question mark before them: for the rest of the group around, or
    for a group of their own. -/
def takeFlags (r : Reading) (paren : Span) (c : Cursor) : Except Fault Reading := do
  let first := c.bump
  if first.atEnd then fail .groupUnclosed paren
  else
    let (items, stop) ← flagItems (first.rest.length + 1) [] first
    let change := flagChange true items
    let last := stop.bump
    if stop.current? = some ':' then return r.enter paren none change last
    else if items.isEmpty then fail .nothingToRepeat c.here
    else
      let free := (change.lookup .free).getD last.free
      return { r with
        branches := r.branches.push paren.start (.flags change)
        cursor := { last with free := free } }

/-- The parenthesis that opens a group, which the cursor is at. -/
def takeOpen (r : Reading) : Except Fault Reading := do
  let paren := r.cursor.one
  let c := r.cursor.advance
  match lookaround? c.rest with
  | some n => fail .lookaround ((c.bumps n).since paren.start)
  | none =>
      let named := match c.rest with
        | '?' :: 'P' :: '<' :: _ => some 3
        | '?' :: '<' :: _ => some 2
        | _ => none
      match named, c.current? with
      | some n, _ =>
          let (name, span, last) ← groupName r.names (c.bumps n)
          return { r with names := (name, span) :: r.names }.enterNumbered paren last
      | none, some '?' => r.takeFlags paren c
      | none, _ => return r.enterNumbered paren c

/-- The parenthesis that closes a group, which the cursor is at. -/
def takeClose (r : Reading) : Except Fault Reading :=
  match r.opened with
  | [] => fail .groupUnopened r.cursor.one
  | group :: opened =>
      let last := { r.cursor.bump with free := group.free }
      let inner := r.branches.tree r.cursor.pos
      let t : Tree := .group (last.since group.paren.start) group.number group.change inner
      .ok { r with
        opened := opened
        branches := group.around.push group.paren.start t
        cursor := last }

/-- The last item of the branch, which is to be repeated. -/
def repeated (r : Reading) : Except Fault (Pos × Tree × List (Pos × Tree)) :=
  match r.branches.items with
  | [] => fail .nothingToRepeat r.cursor.here
  | (_, .flags _) :: _ => fail .nothingToRepeat r.cursor.here
  | (start, t) :: rest => .ok (start, t, rest)

/-- Repeat the last item of the branch. -/
def repeatLast (r : Reading) (start : Pos) (t : Tree) (rest : List (Pos × Tree)) (least : Nat)
    (most : Option Nat) (lazy : Bool) (last : Cursor) : Reading :=
  let whole : Tree := .times (last.since start) least most lazy t
  { r with
    branches := { r.branches with items := (start, whole) :: rest }
    cursor := last }

/-- The sign for a repetition, which the cursor is at. -/
def takeSign (r : Reading) (least : Nat) (most : Option Nat) : Except Fault Reading := do
  let (start, t, rest) ← r.repeated
  let (lazy, last) := lazyMark r.cursor.bump
  return r.repeatLast start t rest least most lazy last

/-- The count for a repetition, whose brace the cursor is at. -/
def takeCount (r : Reading) : Except Fault Reading := do
  let (start, t, rest) ← r.repeated
  let (least, most, lazy, last) ← count r.cursor
  return r.repeatLast start t rest least most lazy last

/-- Read on by one item, with the cursor at its first character. -/
def step (r : Reading) : Except Fault Reading :=
  let c := r.cursor
  match c.current? with
  | some '(' => r.takeOpen
  | some ')' => r.takeClose
  | some '|' =>
      let next := c.bump
      .ok { r with branches := r.branches.bar c.pos next.pos, cursor := next }
  | some '[' => do
      let (s, last) ← bracketed c
      return { r with branches := r.branches.push c.pos (.set s), cursor := last }
  | some '?' => r.takeSign 0 (some 1)
  | some '*' => r.takeSign 0 none
  | some '+' => r.takeSign 1 none
  | some '\x7b' => r.takeCount
  | _ => do
      let (a, last) ← atom c
      return { r with branches := r.branches.push c.pos a.tree, cursor := last }

/-- The tree, once all text has been read. -/
def finish (r : Reading) : Except Fault Tree :=
  match r.opened with
  | group :: _ => fail .groupUnclosed group.paren
  | [] => .ok (r.branches.tree r.cursor.pos)

/-- Read to the end of the text. Each step takes at least one character. -/
def toEnd (r : Reading) : Except Fault Tree :=
  let here := { r with cursor := r.cursor.skip }
  if here.cursor.atEnd then here.finish
  else
    match here.step with
    | .error f => .error f
    | .ok next =>
        if next.cursor.rest.length < r.cursor.rest.length then toEnd next else next.finish
termination_by r.cursor.rest.length

end Reading

/-- The tree that a text stands for. -/
def Tree.ofText (text : List Char) : Except Fault Tree := do
  let t ← (Reading.start text).toEnd
  t.checkNesting 0
  return t

end Gridscript.Pattern
