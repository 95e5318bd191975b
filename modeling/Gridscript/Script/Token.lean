/-
  Tokens of scripts, and how messages name them.
-/
import Gridscript.Element.Decimal

namespace Gridscript

/-- A script scalar. -/
abbrev Scalar := Element .i64

/-- A decimal text as a string. -/
def Element.show {τ : IntType} (a : Element τ) : String := String.ofList a.text

namespace Script

inductive Token where
  | ident (name : String)
  | int (value : Scalar)
  | persistent
  | transpose
  | plus
  | minus
  | star
  | slash
  | assign
  | lbracket
  | rbracket
  | lparen
  | rparen
  | newline
  | eof
deriving DecidableEq

/-- How a message names a token. -/
def Token.text : Token → String
  | ident name => s!"'{name}'"
  | int value => s!"'{value.show}'"
  | persistent => "'persistent'"
  | transpose => "'transpose'"
  | plus => "'+'"
  | minus => "'-'"
  | star => "'*'"
  | slash => "'/'"
  | assign => "'='"
  | lbracket => "'['"
  | rbracket => "']'"
  | lparen => "'('"
  | rparen => "')'"
  | newline => "end of line"
  | eof => "end of input"

end Script

end Gridscript
