/-
  Sets of characters, as ranges of code points.

  The ranges of a set are in order and apart: between two of them lies at least one code point.
  So there is one way to write a set, and its ranges show whether it is empty, whether it has one
  member and whether it lies within ASCII. `mem` says which characters are in a set; that is all
  that matching looks at.
-/
import Gridscript.Text.Ranges

namespace Gridscript

structure CharSet where
  ranges : List (Nat × Nat)
deriving DecidableEq

namespace CharSet

/-- The character is in the set. -/
def mem (s : CharSet) (c : Char) : Bool := Text.inRanges s.ranges c

def none : CharSet := ⟨[]⟩

def any : CharSet := ⟨[(0, 0x10FFFF)]⟩

/-- The characters from one to another. -/
def range (first last : Char) : CharSet := ⟨[(first.toNat, last.toNat)]⟩

/-- The set of one character. -/
def single (c : Char) : CharSet := range c c

/-! ## Union -/

/-- Ranges with one more, which takes up those that it meets. -/
def insertRange (low high : Nat) : List (Nat × Nat) → List (Nat × Nat)
  | [] => [(low, high)]
  | (a, b) :: rest =>
      if high + 1 < a then (low, high) :: (a, b) :: rest
      else if b + 1 < low then (a, b) :: insertRange low high rest
      else insertRange (min low a) (max high b) rest

def union (s t : CharSet) : CharSet :=
  ⟨t.ranges.foldl (fun ranges r => insertRange r.1 r.2 ranges) s.ranges⟩

/-- The union of several sets. -/
def unions (sets : List CharSet) : CharSet := sets.foldl union none

/-- The set of some characters. -/
def listed (cs : List Char) : CharSet := unions (cs.map single)

/-! ## Other operations -/

/-- The next code point of a character; those from 0xD800 to 0xDFFF are of none. -/
def nextCode (n : Nat) : Nat := if n = 0xD7FF then 0xE000 else n + 1

/-- The code point of a character before another one. -/
def previousCode (n : Nat) : Nat := if n = 0xE000 then 0xD7FF else n - 1

/-- What lies between ranges, from a code point on. -/
def gaps (low : Nat) : List (Nat × Nat) → List (Nat × Nat)
  | [] => if low ≤ 0x10FFFF then [(low, 0x10FFFF)] else []
  | (a, b) :: rest =>
      if low < a ∧ low ≤ previousCode a then (low, previousCode a) :: gaps (nextCode b) rest
      else gaps (nextCode b) rest

/-- All other characters. -/
def compl (s : CharSet) : CharSet := ⟨gaps 0 s.ranges⟩

/-- What two ranges have in common. -/
def overlap? (r q : Nat × Nat) : Option (Nat × Nat) :=
  if max r.1 q.1 ≤ min r.2 q.2 then some (max r.1 q.1, min r.2 q.2) else Option.none

def inter (s t : CharSet) : CharSet :=
  ⟨s.ranges.flatMap fun r => t.ranges.filterMap (overlap? r)⟩

def diff (s t : CharSet) : CharSet := s.inter t.compl

def symmDiff (s t : CharSet) : CharSet := (s.diff t).union (t.diff s)

/-! ## Classes within ASCII -/

def asciiDigit : CharSet := range '0' '9'

def asciiLower : CharSet := range 'a' 'z'

def asciiUpper : CharSet := range 'A' 'Z'

def asciiAlpha : CharSet := asciiUpper.union asciiLower

def asciiAlnum : CharSet := asciiDigit.union asciiAlpha

def asciiWord : CharSet := asciiAlnum.union (single '_')

def asciiBlank : CharSet := (range '\t' '\r').union (single ' ')

/-- The set with the other case of each of its ASCII letters. -/
def asciiCaseless (s : CharSet) : CharSet :=
  let raised := (s.inter asciiLower).ranges.map fun r => (r.1 - 32, r.2 - 32)
  let lowered := (s.inter asciiUpper).ranges.map fun r => (r.1 + 32, r.2 + 32)
  (s.union ⟨raised⟩).union ⟨lowered⟩

/-! ## What the ranges show -/

def isEmpty (s : CharSet) : Bool := s.ranges.isEmpty

/-- The only character of a set that has one. -/
def only? (s : CharSet) : Option Char :=
  match s.ranges with
  | [(a, b)] => if a = b then some (Char.ofNat a) else Option.none
  | _ => Option.none

/-- The set lies within ASCII. -/
def isAscii (s : CharSet) : Bool := s.ranges.all (·.2 < 128)

end CharSet

end Gridscript
