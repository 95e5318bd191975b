/-
  Failures of scripts: what went wrong, on which line, and the wording of both.
-/
import Gridscript.Grid.Fault
import Gridscript.Script.Expr

namespace Gridscript.Script

/-- The kinds of values that scripts compute with. -/
inductive Kind where
  | matrix
  | vector
  | scalar
deriving DecidableEq

def Kind.text : Kind → String
  | matrix => "matrix"
  | vector => "vector"
  | scalar => "scalar"

/-- What the grammar asks for at a place where something else was found. -/
inductive Wanted where
  | closingBracket
  | closingParen
  | expression
  | endOfStatement
  | gridName
deriving DecidableEq

def Wanted.text : Wanted → String
  | closingBracket => "']'"
  | closingParen => "')'"
  | expression => "an expression"
  | endOfStatement => "end of statement"
  | gridName => "a matrix name after 'persistent'"

/-- Why a source is no program. -/
inductive SyntaxIssue where
  | unexpectedChar (c : Char)
  | literalTooLarge (digits : String)
  | expected (wanted : Wanted) (found : Token)
  | tooDeep
deriving DecidableEq

def SyntaxIssue.message : SyntaxIssue → String
  | unexpectedChar c => s!"unexpected character '{c}'"
  | literalTooLarge digits => s!"integer literal '{digits}' is out of range"
  | expected wanted found => s!"expected {wanted.text}, found {found.text}"
  | tooDeep => "expression nested too deeply"

/-- An operation on values of kinds that it does not take. -/
inductive Misuse where
  | transpose (operand : Kind)
  /-- A value with nothing to select from. -/
  | select (target : Kind)
  /-- A position that is no scalar. -/
  | position (kind : Kind)
  | binary (op : BinaryOp) (lhs rhs : Kind)
deriving DecidableEq

def Misuse.operation : Misuse → String
  | transpose _ => "transpose"
  | select _ => "[]"
  | position _ => "[]"
  | binary op _ _ => op.symbol

def Misuse.operands : Misuse → String
  | transpose operand => operand.text
  | select target => target.text
  | position kind => s!"{kind.text} index"
  | binary _ lhs rhs => s!"{lhs.text} and {rhs.text}"

/-- What went wrong. -/
inductive Cause where
  | badSyntax (issue : SyntaxIssue)
  | undefined (name : String)
  | unsupported (misuse : Misuse)
  | divisionByZero
  | invalidIndex (value : Scalar)
  | grid (fault : GridFault)
deriving DecidableEq

def Cause.message : Cause → String
  | badSyntax issue => s!"syntax error: {issue.message}"
  | undefined name => s!"undefined variable '{name}'"
  | unsupported misuse => s!"unsupported operation '{misuse.operation}' on {misuse.operands}"
  | divisionByZero => "division by zero"
  | invalidIndex value => s!"invalid index {value.show}"
  | grid fault => fault.message

/-- What went wrong and the line it is reported for. -/
structure Fault where
  line : Nat
  cause : Cause
deriving DecidableEq

namespace Fault

def message (f : Fault) : String := s!"line {f.line}: {f.cause.message}"

/-- The fault, then what lies under it. -/
def causes (f : Fault) : List String :=
  match f.cause with
  | .grid fault => f.message :: fault.causes
  | _ => [f.message]

end Fault

end Gridscript.Script
