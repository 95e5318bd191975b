/-
  How much room the automaton of a pattern takes, in bytes.

  The automaton reads the bytes of a text. Each of its states takes up the same room; a state with
  arcs to others takes up more for each arc, and one that only leads on to others for each of
  these. Repetitions are written out. There are two automata for a pattern, one that reads forwards
  and keeps the ends of groups, and one that reads backwards.
-/
import Gridscript.Pattern.Compose
import Gridscript.Pattern.Encoded

namespace Gridscript.Pattern

/-- Room for a state. -/
def stateBytes : Nat := 32

/-- Room for an arc over a range of bytes. -/
def arcBytes : Nat := 8

/-- Room for a link to a state. -/
def linkBytes : Nat := 4

/-- The sum of some rooms. -/
def total (rooms : List Nat) : Nat := rooms.foldl (· + ·) 0

/-- Which way a text is read. -/
inductive Direction where
  | forwards
  | backwards
deriving DecidableEq

/-! ## Sets -/

/-- What can follow: each range of bytes with what comes after it. Neighbours with the same range
    are taken together. -/
def steps : List ByteRanges → List ((Nat × Nat) × List ByteRanges)
  | [] => []
  | [] :: rest => steps rest
  | (r :: tail) :: rest =>
      match steps rest with
      | (q, tails) :: more =>
          if r = q then (r, tail :: tails) :: more else (r, [tail]) :: (q, tails) :: more
      | [] => [(r, [tail])]

/-- All that can be left of sequences while they are read, up to a number of bytes. -/
def remainders : Nat → List ByteRanges → List (List ByteRanges)
  | 0, _ => []
  | n + 1, sequences =>
      if (steps sequences).isEmpty then []
      else sequences :: (steps sequences).flatMap fun s => remainders n s.2

/-- The beginnings of sequences, the empty one left out. -/
def beginnings (sequences : List ByteRanges) : List ByteRanges :=
  sequences.flatMap fun s => (List.range s.length).map fun n => s.take (n + 1)

/-- The room for a set. Within ASCII all its ranges start from one state. Forwards there is a state
    for each different remainder, backwards one for each different beginning. -/
def setBytes (d : Direction) (s : CharSet) : Nat :=
  if s.isAscii then 2 * stateBytes + arcBytes * s.ranges.length
  else
    let sequences := Encoded.sequences s
    match d with
    | .forwards =>
        let states := (remainders 4 sequences).eraseDups
        stateBytes + total (states.map fun r => stateBytes + arcBytes * (steps r).length)
    | .backwards =>
        2 * stateBytes + stateBytes * (beginnings sequences).eraseDups.length +
          linkBytes * sequences.length

/-! ## Choices between words -/

/-- Words between those that end here. Several of them at the start count once. -/
def runs (words : List (List UInt8)) : List (List (List UInt8)) :=
  match words with
  | [] :: rest => [] :: (rest.dropWhile List.isEmpty).splitOnP List.isEmpty
  | _ => words.splitOnP List.isEmpty

/-- What follows each of the bytes that words start with. -/
def followers (words : List (List UInt8)) : List (List (List UInt8)) :=
  (words.filterMap List.head?).eraseDups.map fun b =>
    words.filterMap fun
      | c :: tail => if c = b then some tail else none
      | [] => none

/-- The room for the tree of words of at most `n` bytes. A single arc is part of its state. -/
def treeBytes : Nat → List (List UInt8) → Nat
  | 0, _ => 0
  | n + 1, words =>
      if words.all List.isEmpty then 0
      else
        let runs := runs words
        let links := (runs.filter fun r => !r.isEmpty).length + (runs.length - 1)
        let below := runs.map fun run =>
          let next := followers run
          let arcs := match next.length with
            | 0 => 0
            | 1 => stateBytes
            | k => stateBytes + arcBytes * k
          arcs + total (next.map (treeBytes n))
        stateBytes + linkBytes * links + total below

/-- The room for a choice between words. -/
def wordsBytes (d : Direction) (words : List (List Char)) : Nat :=
  let encoded := words.map fun w => w.flatMap String.utf8EncodeChar
  let read := match d with
    | .forwards => encoded
    | .backwards => encoded.map List.reverse
  stateBytes + treeBytes ((read.map List.length).foldl max 0) read

/-! ## Patterns -/

/-- The length of the shortest match, if every part can match. -/
def shortest? : Pattern → Option Nat
  | empty => some 0
  | literal cs => some cs.length
  | chars s => if s.isEmpty then none else some 1
  | anchor _ => some 0
  | capture _ p => p.shortest?
  | times p least _ _ => p.shortest?.map (· * least)
  | seq p q => do return (← p.shortest?) + (← q.shortest?)
  | alt p q => do return min (← p.shortest?) (← q.shortest?)

/-- The room for a repetition of what takes up `once`. -/
def timesBytes (once : Nat) (neverEmpty : Bool) (least : Nat) (most : Option Nat) : Nat :=
  let copies := if least = 0 then stateBytes else least * once
  match most with
  | none =>
      if 0 < least then copies + stateBytes + 2 * linkBytes
      else if neverEmpty then once + stateBytes + 2 * linkBytes
      else once + 3 * stateBytes + 4 * linkBytes
  | some most =>
      if least = 0 ∧ most = 1 then once + 2 * stateBytes + 2 * linkBytes
      else if least = most then copies
      else copies + stateBytes + (most - least) * (once + stateBytes + 2 * linkBytes)

/-- What the branches of a pattern take up together, how many there are, and the words that they
    are if all of them are words. -/
structure Load where
  bytes : Nat
  count : Nat
  words : Option (List (List Char))

namespace Load

/-- A pattern that is no choice. -/
def one (bytes : Nat) : Load := ⟨bytes, 1, none⟩

/-- The branches of two patterns. -/
def add (a b : Load) : Load where
  bytes := a.bytes + b.bytes
  count := a.count + b.count
  words := do return (← a.words) ++ (← b.words)

/-- The room for the choice between the branches. -/
def whole (d : Direction) (a : Load) : Nat :=
  if a.count = 1 then a.bytes
  else
    match a.words with
    | some words => wordsBytes d words
    | none => a.bytes + 2 * stateBytes + linkBytes * a.count

end Load

/-- The room for the branches of a pattern. -/
def load (d : Direction) : Pattern → Load
  | empty => .one stateBytes
  | literal cs => ⟨stateBytes * (cs.flatMap String.utf8EncodeChar).length, 1, some [cs]⟩
  | chars s => .one (setBytes d s)
  | anchor _ => .one stateBytes
  | capture _ p =>
      let ends := match d with
        | .forwards => 2 * stateBytes
        | .backwards => 0
      .one ((load d p).whole d + ends)
  | times p least most _ =>
      let neverEmpty := p.shortest?.any (0 < ·)
      .one (timesBytes ((load d p).whole d) neverEmpty least most)
  | seq p q => .one ((load d p).whole d + (load d q).whole d)
  | alt p q => (load d p).add (load d q)

/-- A match of the pattern starts where the text does. -/
def atTextStart : Pattern → Bool
  | anchor .textStart => true
  | capture _ p => p.atTextStart
  | times p least _ _ => 0 < least && p.atTextStart
  | seq p q => p.atTextStart || (p.onlyEmpty && q.atTextStart)
  | alt p q => p.atTextStart && q.atTextStart
  | _ => false

/-- A match of the pattern ends where the text does. -/
def atTextEnd : Pattern → Bool
  | anchor .textEnd => true
  | capture _ p => p.atTextEnd
  | times p least _ _ => 0 < least && p.atTextEnd
  | seq p q => q.atTextEnd || (q.onlyEmpty && p.atTextEnd)
  | alt p q => p.atTextEnd && q.atTextEnd
  | _ => false

/-- The room for what is passed over before a match: nothing, or any bytes. -/
def leadInBytes (fixed : Bool) : Nat :=
  if fixed then stateBytes else timesBytes (2 * stateBytes + arcBytes) true 0 none

/-- The room for the automaton of the pattern in a direction. The whole is a group. -/
def automatonBytes (p : Pattern) : Direction → Nat
  | .forwards =>
      leadInBytes p.atTextStart + (load .forwards p).whole .forwards + 2 * stateBytes + stateBytes
  | .backwards => leadInBytes p.atTextEnd + (load .backwards p).whole .backwards + stateBytes

end Gridscript.Pattern
