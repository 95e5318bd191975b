/-
  Room for cells.

  The cells of a grid, a row or an assembly take the bytes of their type each, and together no
  more than a signed word of 64 bits can count. What is asked for beyond that cannot be made at
  all: the functions here give `none` then. A shape without cells is refused before room is
  asked for. Where there is room they make what is made without asking; `reserve?` is
  `Assembly.start` (`Assembly.reserve?_eq_some_iff`).

  Only the limit is kept here. How many cells a shape has is a number and no word, and memory that
  runs out below the limit is left out. So is the room that reading a text sets aside for the cells
  of its shape (`Csv.read`).
-/
import Gridscript.Element.Basic
import Gridscript.Grid.Assembly
import Gridscript.Grid.Row

namespace Gridscript

/-- The most bytes that can be asked for at once. -/
def maxBytes : Nat := 0x7FFFFFFFFFFFFFFF

namespace IntType

/-- Bytes that a value of the type takes. -/
def bytes (τ : IntType) : Nat := τ.width / 8

/-- There is room for this many values of the type. -/
def hasRoom (τ : IntType) (count : Nat) : Bool := count * τ.bytes ≤ maxBytes

end IntType

/-- The grid of zeros of a shape. -/
def Grid.zeros? (τ : IntType) (shape : Shape) : Option (Except GridFault (Grid (Element τ))) :=
  if shape.isEmpty || τ.hasRoom (shape.rows * shape.cols) then some (Grid.constant shape 0)
  else none

/-- The row of zeros of a length. -/
def Row.zeros? (τ : IntType) (length : Nat) : Option (Except GridFault (Row (Element τ))) :=
  if τ.hasRoom length then some (Row.constant length 0) else none

/-- An assembly that holds no rows, with the room for all of them set aside. -/
def Assembly.reserve? (τ : IntType) (shape : Shape) :
    Option (Except GridFault (Assembly (Element τ))) :=
  if shape.isEmpty || τ.hasRoom (shape.rows * shape.cols) then some (Assembly.start shape)
  else none

/-- An assembly is reserved exactly where there is room or nothing to make room for, and is then
    the one that `start` gives. -/
theorem Assembly.reserve?_eq_some_iff {τ : IntType} {shape : Shape}
    {r : Except GridFault (Assembly (Element τ))} :
    Assembly.reserve? τ shape = some r ↔
      (shape.isEmpty = true ∨ τ.hasRoom (shape.rows * shape.cols) = true) ∧
        Assembly.start shape = r := by
  unfold Assembly.reserve?
  rw [← Bool.or_eq_true]
  by_cases hroom : (shape.isEmpty || τ.hasRoom (shape.rows * shape.cols)) = true
  · rw [if_pos hroom, Option.some.injEq]
    exact ⟨fun h => ⟨hroom, h⟩, fun h => h.2⟩
  · rw [if_neg hroom]
    exact ⟨fun h => (by cases h), fun h => absurd h.1 hroom⟩

end Gridscript
