/-
  JSON values and their reading from text.

  Members of objects keep their order, and a name may occur more than once. Strings and names
  are kept as written, so that a text is refused for a string without characters only where that
  string is asked for.
-/
import Gridscript.Json.Token

namespace Gridscript

inductive Json where
  | null
  | bool (b : Bool)
  | number (text : List Char)
  | string (pieces : List Json.Piece)
  | array (items : List Json)
  | object (members : List (List Json.Piece × Json))

namespace Json

/-- A reading and the fewer tokens that are left after it. -/
abbrev Reading (α : Type) (ts : List Token) := α × { rest : List Token // rest.length < ts.length }

mutual

/-- One value. -/
def value? (ts : List Token) : Option (Reading Json ts) :=
  match ts with
  | .null :: rest => some (.null, ⟨rest, Nat.lt_succ_self _⟩)
  | .bool b :: rest => some (.bool b, ⟨rest, Nat.lt_succ_self _⟩)
  | .number text :: rest => some (.number text, ⟨rest, Nat.lt_succ_self _⟩)
  | .string ps :: rest => some (.string ps, ⟨rest, Nat.lt_succ_self _⟩)
  | .lbracket :: .rbracket :: rest =>
      some (.array [], ⟨rest, by simp only [List.length_cons]; omega⟩)
  | .lbracket :: rest =>
      match items? rest with
      | none => none
      | some (vs, ⟨rest', h⟩) => some (.array vs, ⟨rest', Nat.lt_succ_of_lt h⟩)
  | .lbrace :: .rbrace :: rest =>
      some (.object [], ⟨rest, by simp only [List.length_cons]; omega⟩)
  | .lbrace :: rest =>
      match members? rest with
      | none => none
      | some (ms, ⟨rest', h⟩) => some (.object ms, ⟨rest', Nat.lt_succ_of_lt h⟩)
  | _ => none
termination_by (ts.length, 0)

/-- The values up to the bracket that closes an array, with commas between them. -/
def items? (ts : List Token) : Option (Reading (List Json) ts) :=
  match value? ts with
  | none => none
  | some (v, ⟨rest, h⟩) =>
      match rest with
      | .rbracket :: rest' => some ([v], ⟨rest', by simp only [List.length_cons] at h; omega⟩)
      | .comma :: rest' =>
          have shorter : rest'.length < ts.length := Nat.lt_of_succ_lt h
          match items? rest' with
          | none => none
          | some (vs, ⟨rest'', h'⟩) => some (v :: vs, ⟨rest'', Nat.lt_trans h' shorter⟩)
      | _ => none
termination_by (ts.length, 1)

/-- The members up to the brace that closes an object, with commas between them. -/
def members? (ts : List Token) : Option (Reading (List (List Piece × Json)) ts) :=
  match ts with
  | .string name :: .colon :: rest =>
      match value? rest with
      | none => none
      | some (v, ⟨rest₁, h⟩) =>
          match rest₁ with
          | .rbrace :: rest₂ =>
              some ([(name, v)], ⟨rest₂, by simp only [List.length_cons] at h ⊢; omega⟩)
          | .comma :: rest₂ =>
              have shorter : rest₂.length < rest.length := Nat.lt_of_succ_lt h
              match members? rest₂ with
              | none => none
              | some (ms, ⟨rest₃, h'⟩) =>
                  some ((name, v) :: ms, ⟨rest₃, by simp only [List.length_cons]; omega⟩)
          | _ => none
  | _ => none
termination_by (ts.length, 1)

end

/-- The value that a text stands for. -/
def read? (text : List Char) : Option Json := do
  let ts ← lex? text
  match ← value? ts with
  | (v, ⟨[], _⟩) => some v
  | _ => none

/-- The text of a string. -/
def string? : Json → Option String
  | .string ps => (decode? ps).map String.ofList
  | _ => none

def bool? : Json → Option Bool
  | .bool b => some b
  | _ => none

/-! ## Writing strings -/

/-- A character inside a written string. -/
def escape (c : Char) : List Char :=
  if c = '"' then ['\\', '"']
  else if c = '\\' then ['\\', '\\']
  else if c = '\x08' then ['\\', 'b']
  else if c = '\x0c' then ['\\', 'f']
  else if c = '\n' then ['\\', 'n']
  else if c = '\r' then ['\\', 'r']
  else if c = '\t' then ['\\', 't']
  else if c < ' ' then
    ['\\', 'u', '0', '0'] ++ [Nat.digitChar (c.toNat / 16), Nat.digitChar (c.toNat % 16)]
  else [c]

/-- A string in quotes. -/
def quote (text : List Char) : List Char := '"' :: text.flatMap escape ++ ['"']

end Json

end Gridscript
