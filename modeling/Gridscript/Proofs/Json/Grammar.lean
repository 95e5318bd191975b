/-
  The JSON grammar.

  `Written` relates a value to the texts it is written as: with every choice of escapes and digits
  that the format allows, and with blanks around every value. `Spells` relates the pieces of a
  string to the characters they stand for: a character beyond the first 65536 is given by two
  units, and a unit that is half of a pair stands for no character alone. Neither of them mentions
  the readers.
-/
import Gridscript.Json.Value

namespace Gridscript.Json

/-! ## Strings -/

/-- The letters after a backslash, and the characters they stand for. -/
def shorthands : List (Char × Char) :=
  [('"', '"'), ('\\', '\\'), ('/', '/'), ('b', '\x08'), ('f', '\x0c'), ('n', '\n'), ('r', '\r'),
    ('t', '\t')]

/-- A hexadecimal digit, in either case. -/
def IsHex (digit : Char) (n : Nat) : Prop :=
  n < 16 ∧ (digit = n.digitChar ∨ digit = n.digitChar.toUpper)

instance (digit : Char) (n : Nat) : Decidable (IsHex digit n) :=
  inferInstanceAs (Decidable (_ ∧ _))

/-- How a piece of a string is written. -/
inductive PieceText : Piece → List Char → Prop
  | plain {c : Char} (hquote : c ≠ '"') (hslash : c ≠ '\\') (hcontrol : ' ' ≤ c) :
      PieceText (.plain c) [c]
  | short {letter c : Char} (h : (letter, c) ∈ shorthands) : PieceText (.plain c) ['\\', letter]
  | unit {a b c d : Char} {i j k l : Nat} (ha : IsHex a i) (hb : IsHex b j) (hc : IsHex c k)
      (hd : IsHex d l) :
      PieceText (.unit (((i * 16 + j) * 16 + k) * 16 + l)) ['\\', 'u', a, b, c, d]

/-- A string without its quotes. -/
inductive BodyText : List Piece → List Char → Prop
  | nil : BodyText [] []
  | cons {p : Piece} {ps : List Piece} {t body : List Char} (h : PieceText p t)
      (hrest : BodyText ps body) : BodyText (p :: ps) (t ++ body)

/-- `Spells ps text`: the pieces stand for the characters of the text. -/
inductive Spells : List Piece → List Char → Prop
  | nil : Spells [] []
  | plain (c : Char) {ps : List Piece} {text : List Char} (h : Spells ps text) :
      Spells (.plain c :: ps) (c :: text)
  | unit {c : Char} {ps : List Piece} {text : List Char} (hc : c.toNat < 0x10000)
      (h : Spells ps text) : Spells (.unit c.toNat :: ps) (c :: text)
  | pair {c : Char} {ps : List Piece} {text : List Char} (hc : 0x10000 ≤ c.toNat)
      (h : Spells ps text) :
      Spells (.unit (0xD800 + (c.toNat - 0x10000) / 0x400) ::
        .unit (0xDC00 + (c.toNat - 0x10000) % 0x400) :: ps) (c :: text)

/-! ## Numbers -/

def IsDigits (text : List Char) : Prop := text ≠ [] ∧ text.all Char.isDigit

instance (text : List Char) : Decidable (IsDigits text) := inferInstanceAs (Decidable (_ ∧ _))

/-- No zero stands before another digit. -/
def IsInteger (text : List Char) : Prop :=
  text = ['0'] ∨ IsDigits text ∧ text.head? ≠ some '0'

def IsFraction (text : List Char) : Prop :=
  text = [] ∨ ∃ digits, IsDigits digits ∧ text = '.' :: digits

def IsExponent (text : List Char) : Prop :=
  text = [] ∨ ∃ letter sign digits, (letter = 'e' ∨ letter = 'E') ∧
    sign ∈ [[], ['+'], ['-']] ∧ IsDigits digits ∧ text = letter :: (sign ++ digits)

def IsNumber (text : List Char) : Prop :=
  ∃ sign integer fraction exponent, sign ∈ [[], ['-']] ∧ IsInteger integer ∧
    IsFraction fraction ∧ IsExponent exponent ∧ text = sign ++ (integer ++ (fraction ++ exponent))

/-! ## Values -/

/-- A value, the items of an array or the members of an object. -/
inductive Phrase where
  | value (v : Json)
  | items (vs : List Json)
  | members (ms : List (List Piece × Json))

/-- `Written phrase text`: the text is one of those that the phrase is written as. The brackets and
    braces around items and members are not part of theirs. -/
inductive Written : Phrase → List Char → Prop
  | before {v : Json} {c : Char} {text : List Char} (hc : isBlank c) (h : Written (.value v) text) :
      Written (.value v) (c :: text)
  | after {v : Json} {c : Char} {text : List Char} (h : Written (.value v) text) (hc : isBlank c) :
      Written (.value v) (text ++ [c])
  | null : Written (.value .null) "null".toList
  | bool (b : Bool) :
      Written (.value (.bool b)) (if b then "true".toList else "false".toList)
  | number {text : List Char} (h : IsNumber text) : Written (.value (.number text)) text
  | string {ps : List Piece} {body : List Char} (h : BodyText ps body) :
      Written (.value (.string ps)) ('"' :: (body ++ ['"']))
  | emptyArray {gap : List Char} (h : gap.all isBlank) :
      Written (.value (.array [])) ('[' :: (gap ++ [']']))
  | array {vs : List Json} {text : List Char} (h : Written (.items vs) text) :
      Written (.value (.array vs)) ('[' :: (text ++ [']']))
  | emptyObject {gap : List Char} (h : gap.all isBlank) :
      Written (.value (.object [])) ('\x7b' :: (gap ++ ['\x7d']))
  | object {ms : List (List Piece × Json)} {text : List Char} (h : Written (.members ms) text) :
      Written (.value (.object ms)) ('\x7b' :: (text ++ ['\x7d']))
  | item {v : Json} {text : List Char} (h : Written (.value v) text) : Written (.items [v]) text
  | items {v : Json} {vs : List Json} {text rest : List Char} (h : Written (.value v) text)
      (hrest : Written (.items vs) rest) : Written (.items (v :: vs)) (text ++ ',' :: rest)
  | member {name : List Piece} {v : Json} {left right : List Char}
      (hname : Written (.value (.string name)) left) (h : Written (.value v) right) :
      Written (.members [(name, v)]) (left ++ ':' :: right)
  | members {name : List Piece} {v : Json} {ms : List (List Piece × Json)}
      {left right rest : List Char} (hname : Written (.value (.string name)) left)
      (h : Written (.value v) right) (hrest : Written (.members ms) rest) :
      Written (.members ((name, v) :: ms)) (left ++ ':' :: (right ++ ',' :: rest))

end Gridscript.Json
