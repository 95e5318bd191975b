/-
  Single parts of a pattern: characters, the dot, conditions on places, and all that starts with
  a backslash.
-/
import Gridscript.Pattern.Cursor
import Gridscript.Pattern.Tree

namespace Gridscript.Pattern

/-- A single part, and where it stands. -/
inductive Atom where
  | char (literal : Literal)
  | dot (span : Span)
  | condition (span : Span) (c : Condition)
  | set (s : SetTree)

namespace Atom

def span : Atom → Span
  | char l => l.span
  | dot s => s
  | condition s _ => s
  | set s => s.span

def tree : Atom → Tree
  | char l => .char l
  | dot s => .dot s
  | condition _ c => .condition c
  | set s => .set s

end Atom

/-! ## Hexadecimal escapes -/

def isHexDigit (c : Char) : Bool :=
  c.isDigit || ('a' ≤ c && c ≤ 'f') || ('A' ≤ c && c ≤ 'F')

def hexDigitValue (c : Char) : Nat :=
  if c.isDigit then c.toNat - '0'.toNat
  else if 'a' ≤ c then c.toNat - 'a'.toNat + 10
  else c.toNat - 'A'.toNat + 10

/-- The character with a code point in hexadecimal digits. -/
def charOfHex? (digits : List Char) : Option Char :=
  let n := digits.foldl (fun n c => n * 16 + hexDigitValue c) 0
  if n.isValidChar then some (Char.ofNat n) else none

/-- Exactly `n` hexadecimal digits. -/
def hexDigits : Nat → Cursor → Except Fault (List Char × Cursor)
  | 0, c => .ok ([], c)
  | n + 1, c =>
      match c.rest with
      | [] => fail .escapeUnfinished c.here
      | x :: _ =>
          if isHexDigit x then do
            let next := c.advance
            if n ≠ 0 ∧ next.atEnd then fail .escapeUnfinished next.here
            else
              let (xs, last) ← hexDigits n next
              return (x :: xs, last)
          else fail .hexDigit c.one

/-- The character given by a fixed number of digits. -/
def fixedHex (count : Nat) (c : Cursor) : Except Fault (Char × Cursor) := do
  let (digits, last) ← hexDigits count c
  match charOfHex? digits with
  | some x => return (x, last)
  | none => fail .hexNoCharacter (last.since c.pos)

/-- The character given by digits in braces, the first of which the cursor is at. -/
def bracedHex (c : Cursor) : Except Fault (Char × Cursor) :=
  let (digits, stop) := c.advance.run isHexDigit
  if stop.atEnd then fail .escapeUnfinished (stop.since c.pos)
  else if stop.current? ≠ some '\x7d' then fail .hexDigit stop.one
  else
    let last := stop.advance
    if digits = [] then fail .hexEmpty (last.since c.pos)
    else
      match charOfHex? digits with
      | some x => .ok (x, last)
      | none => fail .hexNoCharacter (stop.since c.bump.pos)

/-- The character given after `x`, `u` or `U`, which the cursor is at. -/
def hexEscape (letter : Char) (c : Cursor) : Except Fault (Char × Bool × Cursor) := do
  let c := c.advance
  if c.atEnd then fail .escapeUnfinished c.here
  else if c.current? = some '\x7b' then
    let (x, last) ← bracedHex c
    return (x, false, last)
  else
    let count := if letter = 'x' then 2 else if letter = 'u' then 4 else 8
    let (x, last) ← fixedHex count c
    return (x, letter = 'x', last)

/-! ## Properties -/

/-- What stands before and after the first place where a text occurs. -/
def cutAt? (mark : List Char) : List Char → Option (List Char × List Char)
  | [] => none
  | c :: rest =>
      if mark.isPrefixOf (c :: rest) then some ([], (c :: rest).drop mark.length)
      else (cutAt? mark rest).map fun (a, b) => (c :: a, b)

/-- The property that a text in braces stands for. -/
def propertyOf (text : List Char) : Property :=
  match cutAt? ['!', '='] text, cutAt? [':'] text, cutAt? ['='] text with
  | some (name, _), _, _ => ⟨name, true⟩
  | none, some (name, _), _ => ⟨name, true⟩
  | none, none, some (name, _) => ⟨name, true⟩
  | none, none, none => ⟨text, false⟩

/-- The property after `p` or `P`, which the cursor is at. -/
def propertyEscape (start : Pos) (c : Cursor) : Except Fault (SetTree × Cursor) :=
  let c := c.advance
  match c.current? with
  | none => fail .escapeUnfinished c.here
  | some '\x7b' =>
      let (text, stop) := c.advance.run (· != '\x7d')
      if stop.atEnd then fail .escapeUnfinished stop.here
      else
        let last := stop.bump
        .ok (.property (last.since start) (propertyOf text), last)
  | some '\\' => fail .propertySyntax c.one
  | some x =>
      let last := c.advance
      .ok (.property (last.since start) ⟨[x], false⟩, last)

/-! ## Word edges -/

/-- The word edge in braces after `\b`, with the cursor at the opening brace. What does not start
    like the name of one is left for a count. -/
def wordEdge? (start : Pos) (c : Cursor) : Except Fault (Option (Condition × Cursor)) :=
  let inNames := fun (x : Char) => x.isAlpha || x == '-'
  let first := c.advance
  if first.atEnd then fail .wordEdgeOrCount (first.since start)
  else if !first.current?.any inNames then .ok none
  else
    let (name, stop) := first.run inNames
    if stop.current? ≠ some '\x7d' then fail .wordEdgeUnclosed (stop.since c.pos)
    else
      let found : Option Condition := match String.ofList name with
        | "start" => some .wordStart
        | "end" => some .wordEnd
        | "start-half" => some .wordStartHalf
        | "end-half" => some .wordEndHalf
        | _ => none
      match found with
      | some edge => .ok (some (edge, stop.bump))
      | none => fail .wordEdgeUnknown (stop.since first.pos)

/-! ## Escapes -/

/-- The character stands for itself after a backslash: any ASCII character but letters, digits
    and angle brackets. -/
def isEscapable (c : Char) : Bool :=
  c.toNat < 128 && !c.isAlphanum && c != '<' && c != '>'

/-- Characters with a letter of their own. -/
def controlOf? : Char → Option Char
  | 'a' => some '\x07'
  | 'f' => some '\x0c'
  | 't' => some '\t'
  | 'n' => some '\n'
  | 'r' => some '\r'
  | 'v' => some '\x0b'
  | _ => none

/-- Conditions with a letter of their own, but for the word boundary. -/
def conditionOf? : Char → Option Condition
  | 'A' => some .textStart
  | 'z' => some .textEnd
  | 'B' => some .wordInside
  | '<' => some .wordStart
  | '>' => some .wordEnd
  | _ => none

/-- Classes with a letter of their own; a capital letter stands for the other characters. -/
def letterClassOf? : Char → Option (Bool × LetterClass)
  | 'd' => some (false, .digit)
  | 's' => some (false, .blank)
  | 'w' => some (false, .word)
  | 'D' => some (true, .digit)
  | 'S' => some (true, .blank)
  | 'W' => some (true, .word)
  | _ => none

/-- What starts with the backslash that the cursor is at. -/
def escape (c : Cursor) : Except Fault (Atom × Cursor) :=
  let start := c.pos
  let c := c.bump
  match c.current? with
  | none => fail .escapeUnfinished (c.since start)
  | some x =>
      let next := c.bump
      let span := next.since start
      if x.isDigit then fail .backreference span
      else if x = 'x' ∨ x = 'u' ∨ x = 'U' then do
        let (char, byte, last) ← hexEscape x c
        return (.char ⟨last.since start, char, byte⟩, last)
      else if x = 'p' ∨ x = 'P' then do
        let (s, last) ← propertyEscape start c
        return (.set s, last)
      else if isEscapable x then .ok (.char ⟨span, x, false⟩, next)
      else if x = 'b' then do
        if next.current? = some '\x7b' then
          match ← wordEdge? start next with
          | some (edge, last) => return (.condition (last.since start) edge, last)
          | none => return (.condition span .wordBoundary, next)
        else return (.condition span .wordBoundary, next)
      else
        match letterClassOf? x, controlOf? x, conditionOf? x with
        | some (negated, name), _, _ => .ok (.set (.letter span negated name), next)
        | none, some char, _ => .ok (.char ⟨span, char, false⟩, next)
        | none, none, some condition => .ok (.condition span condition, next)
        | none, none, none => fail .escapeUnknown span

/-- The single part that the cursor is at. -/
def atom (c : Cursor) : Except Fault (Atom × Cursor) :=
  match c.current? with
  | some '\\' => escape c
  | some '.' => .ok (.dot c.one, c.bump)
  | some '^' => .ok (.condition c.one .lineStart, c.bump)
  | some '$' => .ok (.condition c.one .lineEnd, c.bump)
  | some x => .ok (.char ⟨c.one, x, false⟩, c.bump)
  | none => fail .escapeUnfinished c.here

end Gridscript.Pattern
