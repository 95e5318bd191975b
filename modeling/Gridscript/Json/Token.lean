/-
  Tokens of JSON text.

  Strings are kept as they are written: characters that stand for themselves and 16-bit units
  given by their hexadecimal digits. `decode?` joins pairs of surrogate units; a unit that is half
  of a pair and has no other half stands for no character, and such a string has no text.
-/

namespace Gridscript.Json

/-- One piece of a string. -/
inductive Piece where
  | plain (c : Char)
  | unit (code : Nat)
deriving DecidableEq

inductive Token where
  | lbrace
  | rbrace
  | lbracket
  | rbracket
  | comma
  | colon
  | null
  | bool (b : Bool)
  | number (text : List Char)
  | string (pieces : List Piece)
deriving DecidableEq

/-! ## Strings -/

def isHigh (code : Nat) : Bool := 0xD800 ≤ code && code ≤ 0xDBFF

def isLow (code : Nat) : Bool := 0xDC00 ≤ code && code ≤ 0xDFFF

/-- The text that the pieces of a string stand for. -/
def decode? : List Piece → Option (List Char)
  | [] => some []
  | .plain c :: rest => (decode? rest).map (c :: ·)
  | .unit hi :: .unit lo :: rest =>
      if isHigh hi && isLow lo then
        (decode? rest).map (Char.ofNat (0x10000 + (hi - 0xD800) * 0x400 + (lo - 0xDC00)) :: ·)
      else if isHigh hi || isLow hi then none
      else (decode? (.unit lo :: rest)).map (Char.ofNat hi :: ·)
  | .unit code :: rest =>
      if isHigh code || isLow code then none else (decode? rest).map (Char.ofNat code :: ·)

/-- The value of a hexadecimal digit. -/
def hexDigit? (c : Char) : Option Nat :=
  if c.isDigit then some (c.toNat - '0'.toNat)
  else if 'a' ≤ c && c ≤ 'f' then some (c.toNat - 'a'.toNat + 10)
  else if 'A' ≤ c && c ≤ 'F' then some (c.toNat - 'A'.toNat + 10)
  else none

/-- The unit that four hexadecimal digits stand for. -/
def unit? (a b c d : Char) : Option Nat := do
  let a ← hexDigit? a
  let b ← hexDigit? b
  let c ← hexDigit? c
  let d ← hexDigit? d
  return ((a * 16 + b) * 16 + c) * 16 + d

/-- The character that a letter after a backslash stands for. -/
def escaped? : Char → Option Char
  | '"' => some '"'
  | '\\' => some '\\'
  | '/' => some '/'
  | 'b' => some '\x08'
  | 'f' => some '\x0c'
  | 'n' => some '\n'
  | 'r' => some '\r'
  | 't' => some '\t'
  | _ => none

/-- The pieces up to the closing quote, and the text after it. -/
def pieces? (text : List Char) : Option (List Piece × { rest : List Char // rest.length < text.length }) :=
  match text with
  | [] => none
  | '"' :: rest => some ([], ⟨rest, Nat.lt_succ_self _⟩)
  | '\\' :: 'u' :: a :: b :: c :: d :: rest =>
      match unit? a b c d, pieces? rest with
      | some code, some (ps, ⟨rest', h⟩) =>
          some (.unit code :: ps, ⟨rest', by simp only [List.length_cons]; omega⟩)
      | _, _ => none
  | '\\' :: e :: rest =>
      match escaped? e, pieces? rest with
      | some c, some (ps, ⟨rest', h⟩) =>
          some (.plain c :: ps, ⟨rest', by simp only [List.length_cons]; omega⟩)
      | _, _ => none
  | c :: rest =>
      if c = '\\' || c < ' ' then none
      else
        match pieces? rest with
        | some (ps, ⟨rest', h⟩) => some (.plain c :: ps, ⟨rest', Nat.lt_succ_of_lt h⟩)
        | none => none

/-! ## Numbers -/

theorem length_dropDigits_le (text : List Char) :
    (text.dropWhile Char.isDigit).length ≤ text.length :=
  (List.dropWhile_sublist _).length_le

/-- What follows at least one digit. -/
def afterDigits? (text : List Char) : Option { rest : List Char // rest.length < text.length } :=
  match text with
  | [] => none
  | c :: rest =>
      if c.isDigit then
        some ⟨rest.dropWhile Char.isDigit, Nat.lt_succ_of_le (length_dropDigits_le rest)⟩
      else none

/-- What follows the integer part of a number, which has no leading zero. -/
def afterInteger? (text : List Char) : Option { rest : List Char // rest.length < text.length } :=
  match text with
  | '0' :: c :: rest => if c.isDigit then none else some ⟨c :: rest, Nat.lt_succ_self _⟩
  | text => afterDigits? text

/-- What follows the fraction of a number, if it has one. -/
def afterFraction? (text : List Char) : Option { rest : List Char // rest.length ≤ text.length } :=
  match text with
  | '.' :: rest =>
      (afterDigits? rest).map fun r => ⟨r.val, Nat.le_succ_of_le (Nat.le_of_lt r.property)⟩
  | text => some ⟨text, Nat.le_refl _⟩

/-- The text without a sign at its start. -/
def dropSign (text : List Char) : { rest : List Char // rest.length ≤ text.length } :=
  match text with
  | '+' :: rest => ⟨rest, Nat.le_succ _⟩
  | '-' :: rest => ⟨rest, Nat.le_succ _⟩
  | text => ⟨text, Nat.le_refl _⟩

/-- What follows the exponent of a number, if it has one. -/
def afterExponent? (text : List Char) : Option { rest : List Char // rest.length ≤ text.length } :=
  match text with
  | [] => some ⟨[], Nat.le_refl _⟩
  | c :: rest =>
      if c = 'e' || c = 'E' then
        (afterDigits? (dropSign rest).val).map fun r =>
          ⟨r.val, Nat.le_succ_of_le (Nat.le_trans (Nat.le_of_lt r.property) (dropSign rest).property)⟩
      else some ⟨c :: rest, Nat.le_refl _⟩

/-- The text without a minus sign at its start. -/
def dropMinus (text : List Char) : { rest : List Char // rest.length ≤ text.length } :=
  match text with
  | '-' :: rest => ⟨rest, Nat.le_succ _⟩
  | text => ⟨text, Nat.le_refl _⟩

/-- What follows a number. -/
def afterNumber? (text : List Char) : Option { rest : List Char // rest.length < text.length } :=
  match afterInteger? (dropMinus text).val with
  | none => none
  | some ⟨rest₁, h₁⟩ =>
      match afterFraction? rest₁ with
      | none => none
      | some ⟨rest₂, h₂⟩ =>
          match afterExponent? rest₂ with
          | none => none
          | some ⟨rest₃, h₃⟩ =>
              some ⟨rest₃, Nat.lt_of_le_of_lt (Nat.le_trans h₃ h₂)
                (Nat.lt_of_lt_of_le h₁ (dropMinus text).property)⟩

/-! ## Texts -/

def isBlank (c : Char) : Bool := c == ' ' || c == '\t' || c == '\n' || c == '\r'

/-- The tokens of a text. -/
def lex? (text : List Char) : Option (List Token) :=
  match text with
  | [] => some []
  | '\x7b' :: rest => (lex? rest).map (.lbrace :: ·)
  | '\x7d' :: rest => (lex? rest).map (.rbrace :: ·)
  | '[' :: rest => (lex? rest).map (.lbracket :: ·)
  | ']' :: rest => (lex? rest).map (.rbracket :: ·)
  | ',' :: rest => (lex? rest).map (.comma :: ·)
  | ':' :: rest => (lex? rest).map (.colon :: ·)
  | 'n' :: 'u' :: 'l' :: 'l' :: rest => (lex? rest).map (.null :: ·)
  | 't' :: 'r' :: 'u' :: 'e' :: rest => (lex? rest).map (.bool true :: ·)
  | 'f' :: 'a' :: 'l' :: 's' :: 'e' :: rest => (lex? rest).map (.bool false :: ·)
  | '"' :: rest =>
      match pieces? rest with
      | none => none
      | some (ps, ⟨rest', _⟩) => (lex? rest').map (.string ps :: ·)
  | c :: rest =>
      if isBlank c then lex? rest
      else
        match afterNumber? (c :: rest) with
        | none => none
        | some ⟨rest', _⟩ =>
            (lex? rest').map (.number ((c :: rest).take (rest.length + 1 - rest'.length)) :: ·)
termination_by text.length
decreasing_by all_goals simp only [List.length_cons] at *; omega

end Gridscript.Json
