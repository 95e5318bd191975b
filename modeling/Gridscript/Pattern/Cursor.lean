/-
  Reading the text of a pattern from left to right.

  A cursor is what is left of the text and the place where that starts. In a text that is laid
  out freely, blanks and comments (from `#` to the end of the line) are passed over after each
  step.
-/
import Gridscript.Pattern.Fault
import Gridscript.Text.Blank

namespace Gridscript.Pattern

structure Cursor where
  rest : List Char
  pos : Pos
  free : Bool
deriving DecidableEq

/-- Stop with a fault. -/
def fail {α : Type} (issue : Issue) (span : Span) : Except Fault α := .error ⟨issue, span, none⟩

/-- What is left after blanks and comments, and where it starts. -/
def passBlanks : List Char → Pos → (comment : Bool) → List Char × Pos
  | [], p, _ => ([], p)
  | c :: rest, p, true => passBlanks rest (p.next c) (c != '\n')
  | c :: rest, p, false =>
      if Text.isBlank c then passBlanks rest (p.next c) false
      else if c = '#' then passBlanks rest (p.next c) true
      else (c :: rest, p)

namespace Cursor

def ofText (text : List Char) : Cursor := ⟨text, Pos.first, false⟩

def current? (c : Cursor) : Option Char := c.rest.head?

def atEnd (c : Cursor) : Bool := c.rest.isEmpty

/-- Past the current character. -/
def bump (c : Cursor) : Cursor :=
  match c.rest with
  | [] => c
  | x :: rest => { c with rest := rest, pos := c.pos.next x }

/-- Past blanks and comments, if the text is laid out freely. -/
def skip (c : Cursor) : Cursor :=
  if c.free then
    let (rest, pos) := passBlanks c.rest c.pos false
    { c with rest := rest, pos := pos }
  else c

/-- Past the current character and what is to be passed over after it. -/
def advance (c : Cursor) : Cursor := c.bump.skip

/-- Past `n` characters. -/
def bumps : Nat → Cursor → Cursor
  | 0, c => c
  | n + 1, c => bumps n c.bump

/-- The empty span at the cursor. -/
def here (c : Cursor) : Span := ⟨c.pos, c.pos⟩

/-- The span of the current character. -/
def one (c : Cursor) : Span := ⟨c.pos, c.bump.pos⟩

/-- The span from a place to the cursor. -/
def since (c : Cursor) (start : Pos) : Span := ⟨start, c.pos⟩

/-- The character after the current one, past what is to be passed over. After `#` the next
    character that is not blank counts. -/
def second? (c : Cursor) : Option Char :=
  match c.rest with
  | [] => none
  | _ :: after =>
      if c.free then
        let afterBlanks := after.dropWhile Text.isBlank
        let found := match afterBlanks with
          | '#' :: comment => comment.dropWhile Text.isBlank
          | other => other
        match found with
        | x :: _ => some x
        | [] => after.head?
      else after.head?

/-- The run of characters of a class, at most `n` of them. -/
def runUpTo (p : Char → Bool) : Nat → Cursor → List Char × Cursor
  | 0, c => ([], c)
  | n + 1, c =>
      match c.rest with
      | [] => ([], c)
      | x :: _ =>
          if p x then
            let (xs, c) := runUpTo p n c.advance
            (x :: xs, c)
          else ([], c)

/-- The run of characters of a class that the cursor is at. -/
def run (p : Char → Bool) (c : Cursor) : List Char × Cursor := runUpTo p c.rest.length c

end Cursor

end Gridscript.Pattern
