/-
  The text of a pattern as a tree, before flags are applied. Nodes keep the spans that faults
  found later refer to.
-/
import Gridscript.Pattern.Fault

namespace Gridscript.Pattern

/-- Switches for the part of a pattern after them. -/
inductive Flag where
  | caseless
  | lines
  | dotAll
  | greedySwap
  | unicode
  | crlf
  | free
deriving DecidableEq

/-- Flags that are switched on or off. -/
abbrev FlagChange := List (Flag × Bool)

/-- Classes with a letter of their own. -/
inductive LetterClass where
  | digit
  | blank
  | word
deriving DecidableEq

/-- Classes of ASCII characters that brackets know by name. -/
inductive AsciiClass where
  | alnum
  | alpha
  | ascii
  | blank
  | cntrl
  | digit
  | graph
  | lower
  | print
  | punct
  | space
  | upper
  | word
  | xdigit
deriving DecidableEq

def AsciiClass.ofName? (name : List Char) : Option AsciiClass :=
  match String.ofList name with
  | "alnum" => some .alnum
  | "alpha" => some .alpha
  | "ascii" => some .ascii
  | "blank" => some .blank
  | "cntrl" => some .cntrl
  | "digit" => some .digit
  | "graph" => some .graph
  | "lower" => some .lower
  | "print" => some .print
  | "punct" => some .punct
  | "space" => some .space
  | "upper" => some .upper
  | "word" => some .word
  | "xdigit" => some .xdigit
  | _ => none

/-- A property of characters, by its name, and whether it was given with a value. -/
structure Property where
  name : List Char
  valued : Bool
deriving DecidableEq

/-- A character of the pattern; `byte` if it was given as two hexadecimal digits. -/
structure Literal where
  span : Span
  char : Char
  byte : Bool
deriving DecidableEq

/-- Operations on sets. -/
inductive SetOp where
  | inter
  | diff
  | symmDiff
deriving DecidableEq

/-- A set of characters as written. -/
inductive SetTree where
  | empty (span : Span)
  | char (literal : Literal)
  | range (first last : Literal)
  | ascii (span : Span) (negated : Bool) (name : AsciiClass)
  | letter (span : Span) (negated : Bool) (name : LetterClass)
  | property (span : Span) (property : Property)
  | bracket (span : Span) (negated : Bool) (inner : SetTree)
  | union (span : Span) (items : List SetTree)
  | op (span : Span) (op : SetOp) (left right : SetTree)

def SetTree.span : SetTree → Span
  | empty s => s
  | char l => l.span
  | range first last => ⟨first.span.start, last.span.stop⟩
  | ascii s _ _ => s
  | letter s _ _ => s
  | property s _ => s
  | bracket s _ _ => s
  | union s _ => s
  | op s _ _ _ => s

mutual

/-- The set names characters, by themselves, in a range or by a class. -/
def SetTree.namesChars : SetTree → Bool
  | .empty _ => false
  | .bracket _ _ inner => inner.namesChars
  | .union _ items => anyNamesChars items
  | .op _ _ left right => left.namesChars || right.namesChars
  | _ => true

def anyNamesChars : List SetTree → Bool
  | [] => false
  | s :: rest => s.namesChars || anyNamesChars rest

end

/-- A condition on a place, as written. -/
inductive Condition where
  | lineStart
  | lineEnd
  | textStart
  | textEnd
  | wordBoundary
  | wordInside
  | wordStart
  | wordEnd
  | wordStartHalf
  | wordEndHalf
deriving DecidableEq

/-- A pattern as written. Groups that are counted have a number. -/
inductive Tree where
  | empty
  | flags (change : FlagChange)
  | char (literal : Literal)
  | dot (span : Span)
  | condition (c : Condition)
  | set (s : SetTree)
  | times (span : Span) (least : Nat) (most : Option Nat) (lazy : Bool) (inner : Tree)
  | group (span : Span) (number : Option Nat) (change : FlagChange) (inner : Tree)
  | seq (span : Span) (items : List Tree)
  | alt (span : Span) (branches : List Tree)

/-! ## Nesting -/

/-- How deep a pattern may be nested. -/
def nestLimit : Nat := 250

/-- Refuse what is nested too deep. -/
def checkDepth (depth : Nat) (span : Span) : Except Fault Unit :=
  if depth ≤ nestLimit then .ok () else .error ⟨.nesting nestLimit, span, none⟩

mutual

def SetTree.checkNesting (depth : Nat) : SetTree → Except Fault Unit
  | .bracket span _ inner => do
      checkDepth (depth + 1) span
      inner.checkNesting (depth + 1)
  | .union span items => do
      checkDepth (depth + 1) span
      checkSetItems (depth + 1) items
  | .op span _ left right => do
      checkDepth (depth + 1) span
      left.checkNesting (depth + 1)
      right.checkNesting (depth + 1)
  | _ => .ok ()

def checkSetItems (depth : Nat) : List SetTree → Except Fault Unit
  | [] => .ok ()
  | s :: rest => do
      s.checkNesting depth
      checkSetItems depth rest

end

mutual

def Tree.checkNesting (depth : Nat) : Tree → Except Fault Unit
  | .set s => s.checkNesting depth
  | .times span _ _ _ inner => do
      checkDepth (depth + 1) span
      inner.checkNesting (depth + 1)
  | .group span _ _ inner => do
      checkDepth (depth + 1) span
      inner.checkNesting (depth + 1)
  | .seq span items => do
      checkDepth (depth + 1) span
      checkItems (depth + 1) items
  | .alt span branches => do
      checkDepth (depth + 1) span
      checkItems (depth + 1) branches
  | _ => .ok ()

def checkItems (depth : Nat) : List Tree → Except Fault Unit
  | [] => .ok ()
  | t :: rest => do
      t.checkNesting depth
      checkItems depth rest

end

end Gridscript.Pattern
