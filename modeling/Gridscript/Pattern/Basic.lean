/-
  Patterns of text, and which texts hold a match of one.

  A text of `n` characters has `n + 1` places, before its first character and after each. A
  pattern leads from places to places: a set of characters over one character, an anchor from a
  place to itself if the place is of its kind, a sequence by one part after the other. `reach`
  computes for all places at once: it takes the marks of the places to start from and gives the
  marks of those that can be come to. A text holds a match if any place can be come to from any.

  Groups and the choice between a long and a short match are part of a pattern, but have no say
  in which texts hold a match.
-/
import Gridscript.Pattern.CharSet

namespace Gridscript

/-- How a place lies to the words of the text. -/
inductive WordEdge where
  | boundary
  | inside
  | start
  | stop
  | startHalf
  | stopHalf
deriving DecidableEq

/-- The edge lies where a word character does or does not stand before and after. -/
def WordEdge.holds : WordEdge → (before after : Bool) → Bool
  | boundary, before, after => before != after
  | inside, before, after => before == after
  | start, before, after => !before && after
  | stop, before, after => before && !after
  | startHalf, before, _ => !before
  | stopHalf, _, after => !after

/-- Kinds of places. The edges of words can be asked for by the rules of Unicode, but such a
    pattern is refused before it is matched. -/
inductive Anchor where
  | textStart
  | textEnd
  | lineStart (crlf : Bool)
  | lineEnd (crlf : Bool)
  | word (edge : WordEdge) (unicode : Bool)
deriving DecidableEq

/-- The place between two characters, either of which may be missing, is of the kind. With
    `crlf` a carriage return ends a line too, and no place inside of `\r\n` is of the kind. Words
    are made of ASCII letters, digits and underscores. -/
def Anchor.holds : Anchor → (before after : Option Char) → Bool
  | textStart, before, _ => before.isNone
  | textEnd, _, after => after.isNone
  | lineStart crlf, before, after =>
      before.isNone || before == some '\n' || (crlf && before == some '\r' && after != some '\n')
  | lineEnd crlf, before, after =>
      if crlf then
        after.isNone || after == some '\r' || (after == some '\n' && before != some '\r')
      else after.isNone || after == some '\n'
  | word edge _, before, after =>
      edge.holds (before.any CharSet.asciiWord.mem) (after.any CharSet.asciiWord.mem)

/-- A pattern of text. Groups are numbered; a repetition that is `lazy` stops as early as it
    can. -/
inductive Pattern where
  | empty
  | literal (cs : List Char)
  | chars (set : CharSet)
  | anchor (a : Anchor)
  | capture (number : Nat) (p : Pattern)
  | times (p : Pattern) (least : Nat) (most : Option Nat) (lazy : Bool)
  | seq (p q : Pattern)
  | alt (p q : Pattern)
deriving DecidableEq

namespace Pattern

/-- A mark for each place of a text. -/
abbrev Marks := List Bool

/-- The places that are of a kind, where `before` is the character before the text. -/
def places (a : Anchor) (before : Option Char) : List Char → Marks
  | [] => [a.holds before none]
  | c :: rest => a.holds before (some c) :: places a (some c) rest

def Marks.or (m n : Marks) : Marks := List.zipWith (· || ·) m n

def Marks.and (m n : Marks) : Marks := List.zipWith (· && ·) m n

/-- Over one character of a class. -/
def stepOver (text : List Char) (fits : Char → Bool) (m : Marks) : Marks :=
  false :: List.zipWith (fun marked c => marked && fits c) m text

/-- The marks after `n` steps. -/
def after (step : Marks → Marks) : Nat → Marks → Marks
  | 0, m => m
  | n + 1, m =>
      let next := step m
      if next = m then m else after step n next

/-- The marks that can be come to in at most `n` steps. -/
def within (step : Marks → Marks) : Nat → Marks → Marks
  | 0, m => m
  | n + 1, m =>
      let next := m.or (step m)
      if next = m then m else within step n next

/-- The places that the pattern leads to from marked places. Without an upper bound as many steps
    as the text has places are enough, since each has to mark one more. -/
def reach (text : List Char) : Pattern → Marks → Marks
  | empty, m => m
  | literal cs, m => cs.foldl (fun m c => stepOver text (· == c) m) m
  | chars set, m => stepOver text set.mem m
  | anchor a, m => m.and (places a none text)
  | capture _ p, m => reach text p m
  | times p least most _, m =>
      let more := match most with
        | some most => most - least
        | none => text.length + 1
      within (reach text p) more (after (reach text p) least m)
  | seq p q, m => reach text q (reach text p m)
  | alt p q, m => (reach text p m).or (reach text q m)

/-- The text holds a match of the pattern. -/
def foundIn (p : Pattern) (text : List Char) : Bool :=
  (reach text p (List.replicate (text.length + 1) true)).any id

end Pattern

end Gridscript
