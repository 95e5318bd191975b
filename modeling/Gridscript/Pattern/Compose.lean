/-
  Patterns put together from parts.

  Each way of putting together keeps patterns in a plain form. A sequence has no sequence and no
  empty pattern as a part, and no text next to a text; a choice has no choice as a branch. A choice
  between single characters, or between sets, is one set; a choice between sequences that start
  with the same parts is these parts and then a choice. What matches no more than the empty text is
  not repeated.
-/
import Gridscript.Pattern.Basic

namespace Gridscript.Pattern

/-- A set with one member is a text. -/
def ofSet (s : CharSet) : Pattern :=
  match s.only? with
  | some c => .literal [c]
  | none => .chars s

/-! ## Sequences -/

def parts : Pattern → List Pattern
  | empty => []
  | seq p q => parts p ++ parts q
  | p => [p]

/-- Join texts that stand next to each other. -/
def joinTexts : List Pattern → List Pattern
  | [] => []
  | .literal a :: rest =>
      match joinTexts rest with
      | .literal b :: more => .literal (a ++ b) :: more
      | more => .literal a :: more
  | p :: rest => p :: joinTexts rest

def ofParts : List Pattern → Pattern
  | [] => .empty
  | [p] => p
  | p :: rest => .seq p (ofParts rest)

/-- One pattern after the other. -/
def concat (ps : List Pattern) : Pattern := ofParts (joinTexts (ps.flatMap parts))

/-! ## Choices -/

def branches : Pattern → List Pattern
  | alt p q => branches p ++ branches q
  | p => [p]

def ofBranches : List Pattern → Pattern
  | [] => .chars .none
  | [p] => p
  | p :: rest => .alt p (ofBranches rest)

def char? : Pattern → Option Char
  | .literal [c] => some c
  | _ => none

def set? : Pattern → Option CharSet
  | .chars s => some s
  | _ => none

/-- The set of all that is matched, if the branches are characters or are sets. -/
def mergedSet? (branches : List Pattern) : Option CharSet :=
  match branches.mapM char?, branches.mapM set? with
  | some cs, _ => some (.listed cs)
  | none, some sets => some (.unions sets)
  | none, none => none

/-- A choice between branches, none of which is a choice. -/
def choose (branches : List Pattern) : Pattern :=
  match branches with
  | [p] => p
  | _ =>
      match mergedSet? branches with
      | some s => ofSet s
      | none => ofBranches branches

/-- What two lists of parts start with. -/
def sharedStart : List Pattern → List Pattern → List Pattern
  | p :: ps, q :: qs => if p = q then p :: sharedStart ps qs else []
  | _, _ => []

/-- The parts that all branches start with, if all are sequences. -/
def commonStart : List Pattern → List Pattern
  | [] => []
  | p :: rest =>
      if (p :: rest).all fun q => 2 ≤ q.parts.length then
        rest.foldl (fun start q => sharedStart start q.parts) p.parts
      else []

/-- One of several patterns. -/
def choice (ps : List Pattern) : Pattern :=
  let all := ps.flatMap branches
  let start := if all.length < 2 ∨ (mergedSet? all).isSome then [] else commonStart all
  if start.isEmpty then choose all
  else
    let ends := all.map fun p => ofParts (p.parts.drop start.length)
    concat (start ++ [choose (ends.flatMap branches)])

/-! ## Repetitions -/

/-- The pattern matches no text but the empty one. -/
def onlyEmpty : Pattern → Bool
  | empty => true
  | literal cs => cs.isEmpty
  | chars _ => false
  | anchor _ => true
  | capture _ p => p.onlyEmpty
  | times p _ most _ => p.onlyEmpty && most.isSome
  | seq p q => p.onlyEmpty && q.onlyEmpty
  | alt p q => p.onlyEmpty && q.onlyEmpty

/-- The pattern from `least` to `most` times. -/
def repeated (p : Pattern) (least : Nat) (most : Option Nat) (lazy : Bool) : Pattern :=
  let least := if p.onlyEmpty then min least 1 else least
  let most := if p.onlyEmpty then some (min (most.getD 1) 1) else most
  if least = 0 ∧ most = some 0 then .empty
  else if least = 1 ∧ most = some 1 then p
  else .times p least most lazy

end Gridscript.Pattern
