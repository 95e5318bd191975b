/-
  Algebra of grids and rows over wrapping elements.

  Products and sums exist for fitting shapes only. Division by a scalar exists for a scalar
  other than zero.
-/
import Gridscript.Element.Basic
import Gridscript.Grid.Row

namespace Gridscript

variable {τ : IntType}

namespace Grid

/-- Rows and columns exchanged. -/
def transpose {α : Type} [Inhabited α] (g : Grid α) : Grid α :=
  tabulate g.cols g.rows fun i j => g.cell j i

/-- Sum of the products of `f k` and `h k` for `k` below `n`, taken in order. -/
def dot (n : Nat) (f h : Nat → Element τ) : Element τ :=
  (List.range n).foldl (fun acc k => acc + f k * h k) 0

def multiply (g h : Grid (Element τ)) : Except GridFault (Grid (Element τ)) :=
  if g.cols = h.rows then
    .ok (tabulate g.rows h.cols fun i j => dot g.cols (fun k => g.cell i k) fun k => h.cell k j)
  else .error (.shape (.incompatible .multiply g.shape h.shape))

def add (g h : Grid (Element τ)) : Except GridFault (Grid (Element τ)) :=
  if g.shape = h.shape then
    .ok ⟨g.rows, g.cols, Array.zipWith (· + ·) g.cells h.cells⟩
  else .error (.shape (.incompatible .add g.shape h.shape))

/-- Add a scalar to every cell. -/
def shift (g : Grid (Element τ)) (s : Element τ) : Grid (Element τ) := g.map (· + s)

/-- Multiply every cell by a scalar. -/
def scale (g : Grid (Element τ)) (s : Element τ) : Grid (Element τ) := g.map (· * s)

/-- Divide every cell by a scalar. -/
def divide? (g : Grid (Element τ)) (s : Element τ) : Option (Grid (Element τ)) :=
  if s = 0 then none else some (g.map (·.quotientOrNeg s))

end Grid

namespace Row

def shift (r : Row (Element τ)) (s : Element τ) : Row (Element τ) := r.map (· + s)

def scale (r : Row (Element τ)) (s : Element τ) : Row (Element τ) := r.map (· * s)

def divide? (r : Row (Element τ)) (s : Element τ) : Option (Row (Element τ)) :=
  if s = 0 then none else some (r.map (·.quotientOrNeg s))

end Row

end Gridscript
