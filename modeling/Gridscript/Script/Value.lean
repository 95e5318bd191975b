/-
  Values of expressions, and the operations of the language on them.
-/
import Gridscript.Grid.Algebra
import Gridscript.Grid.Display
import Gridscript.Script.Fault

namespace Gridscript.Script

inductive Value where
  | matrix (grid : Grid Scalar)
  | vector (row : Row Scalar)
  | scalar (n : Scalar)
deriving DecidableEq

namespace Value

def kind : Value → Kind
  | matrix _ => .matrix
  | vector _ => .vector
  | scalar _ => .scalar

def display : Value → String
  | matrix grid => grid.display
  | vector row => row.display
  | scalar n => n.show

def negate : Value → Value
  | matrix grid => matrix (grid.scale (-Element.wrap .i64 1))
  | vector row => vector (row.scale (-Element.wrap .i64 1))
  | scalar n => scalar (-n)

def transpose : Value → Except Cause Value
  | matrix grid => .ok (matrix grid.transpose)
  | v => .error (.unsupported (.transpose v.kind))

/-- The value as a position: a scalar that is not negative. -/
def position : Value → Except Cause Nat
  | scalar n => if 0 ≤ n.val then .ok n.val.toNat else .error (.invalidIndex n)
  | v => .error (.unsupported (.position v.kind))

/-- The row of a matrix or the element of a vector at a position. -/
def select (target : Value) (position : Nat) : Except Cause Value :=
  match target with
  | matrix grid => ((grid.row position).mapError Cause.grid).map vector
  | vector row => ((row.get position).mapError Cause.grid).map scalar
  | v => .error (.unsupported (.select v.kind))

/-- The element of a grid at a row and a column. -/
def element (grid : Grid Scalar) (row col : Nat) : Except Cause Value :=
  ((grid.get row col).mapError Cause.grid).map scalar

/-- A quotient by a scalar, which may not be zero. -/
def quotient {α : Type} (wrap : α → Value) : Option α → Except Cause Value
  | some a => .ok (wrap a)
  | none => .error .divisionByZero

/-- The binary operations. Scalars go with all kinds, other kinds only with their like and only
    where the algebra of grids has the operation. -/
def binary : BinaryOp → Value → Value → Except Cause Value
  | .add, scalar a, scalar b => .ok (scalar (a + b))
  | .sub, scalar a, scalar b => .ok (scalar (a - b))
  | .mul, scalar a, scalar b => .ok (scalar (a * b))
  | .div, scalar a, scalar b =>
      if b = 0 then .error .divisionByZero else .ok (scalar (a.quotient b))
  | .add, matrix g, matrix h => ((g.add h).mapError Cause.grid).map matrix
  | .mul, matrix g, matrix h => ((g.multiply h).mapError Cause.grid).map matrix
  | .add, matrix g, scalar s => .ok (matrix (g.shift s))
  | .add, scalar s, matrix g => .ok (matrix (g.shift s))
  | .sub, matrix g, scalar s => .ok (matrix (g.shift (-s)))
  | .mul, matrix g, scalar s => .ok (matrix (g.scale s))
  | .mul, scalar s, matrix g => .ok (matrix (g.scale s))
  | .div, matrix g, scalar s => quotient matrix (g.divide? s)
  | .add, vector r, scalar s => .ok (vector (r.shift s))
  | .add, scalar s, vector r => .ok (vector (r.shift s))
  | .sub, vector r, scalar s => .ok (vector (r.shift (-s)))
  | .mul, vector r, scalar s => .ok (vector (r.scale s))
  | .mul, scalar s, vector r => .ok (vector (r.scale s))
  | .div, vector r, scalar s => quotient vector (r.divide? s)
  | op, a, b => .error (.unsupported (.binary op a.kind b.kind))

end Value

end Gridscript.Script
