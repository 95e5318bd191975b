/-
  Scopes and the evaluation of expressions in them.

  A position after a position on a matrix reads one element: both positions are evaluated before
  either is checked against the matrix.
-/
import Gridscript.Script.Value

namespace Gridscript.Script

/-- Variables and their values, the latest first. -/
structure Scope where
  entries : List (String × Value)
deriving DecidableEq

namespace Scope

def empty : Scope := ⟨[]⟩

def find? (s : Scope) (name : String) : Option Value := s.entries.lookup name

/-- The scope with a variable bound to a value. -/
def bind (s : Scope) (name : String) (value : Value) : Scope := ⟨(name, value) :: s.entries⟩

@[simp] theorem find?_bind_self (s : Scope) (name : String) (value : Value) :
    (s.bind name value).find? name = some value := by
  simp [find?, bind]

theorem find?_bind_of_ne (s : Scope) {name other : String} (h : other ≠ name) (value : Value) :
    (s.bind name value).find? other = s.find? other := by
  have hb : (other == name) = false := beq_eq_false_iff_ne.2 h
  simp only [find?, bind, List.lookup_cons, hb]

end Scope

/-- The value of an expression. -/
def Expr.eval (scope : Scope) : Expr → Except Cause Value
  | .int n => .ok (.scalar n)
  | .var name =>
      match scope.find? name with
      | some v => .ok v
      | none => .error (.undefined name)
  | .neg e => do
      let v ← e.eval scope
      return v.negate
  | .transpose e => do
      let v ← e.eval scope
      v.transpose
  | .binary op lhs rhs => do
      let a ← lhs.eval scope
      let b ← rhs.eval scope
      Value.binary op a b
  | .index (.index inner row) col => do
      match ← inner.eval scope with
      | .matrix grid =>
          let i ← (← row.eval scope).position
          let j ← (← col.eval scope).position
          Value.element grid i j
      | _ =>
          let target ← (Expr.index inner row).eval scope
          let j ← (← col.eval scope).position
          target.select j
  | .index target position => do
      let v ← target.eval scope
      let i ← (← position.eval scope).position
      v.select i

end Gridscript.Script
