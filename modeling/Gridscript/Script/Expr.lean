/-
  Expressions, statements and programs of the script language.
-/
import Gridscript.Script.Token

namespace Gridscript.Script

inductive BinaryOp where
  | add
  | sub
  | mul
  | div
deriving DecidableEq

def BinaryOp.symbol : BinaryOp → String
  | add => "+"
  | sub => "-"
  | mul => "*"
  | div => "/"

inductive Expr where
  | int (value : Scalar)
  | var (name : String)
  | neg (e : Expr)
  | transpose (e : Expr)
  | binary (op : BinaryOp) (lhs rhs : Expr)
  | index (target position : Expr)
deriving DecidableEq

/-- What a statement does. -/
inductive Action where
  /-- Load a grid by name and have it written back at the end of the run. -/
  | persistent (name : String)
  | assign (name : String) (value : Expr)
  /-- Compute a value and report it. -/
  | display (value : Expr)
deriving DecidableEq

/-- An action and the line it starts on. -/
structure Statement where
  line : Nat
  action : Action
deriving DecidableEq

abbrev Program := List Statement

end Gridscript.Script
