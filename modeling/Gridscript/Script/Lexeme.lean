/-
  From source text to tokens.

  Blanks other than the line feed separate tokens, `#` starts a comment that lasts to the end of
  its line, and a line feed is a token of its own. Words are as long as they can be, and so are
  runs of digits. The list of tokens ends in `eof`.
-/
import Gridscript.Script.Fault
import Gridscript.Text.Blank
import Gridscript.Text.Letter
import Gridscript.Text.Numeral

namespace Gridscript.Script

/-- A token and the line it stands on. -/
structure Lexeme where
  line : Nat
  token : Token
deriving DecidableEq

/-- A character that a word can start with. -/
def isWordStart (c : Char) : Bool := Text.isLetter c || c == '_'

/-- A character that a word can go on with. -/
def isWordPart (c : Char) : Bool := Text.isLetter c || Text.isNumeral c || c == '_'

/-- The token of a word: one of the two keywords or a name. -/
def wordToken (word : String) : Token :=
  if word = "persistent" then .persistent
  else if word = "transpose" then .transpose
  else .ident word

/-- The token of a single character. -/
def symbol? : Char → Option Token
  | '+' => some .plus
  | '-' => some .minus
  | '*' => some .star
  | '/' => some .slash
  | '=' => some .assign
  | '[' => some .lbracket
  | ']' => some .rbracket
  | '(' => some .lparen
  | ')' => some .rparen
  | _ => none

theorem length_dropWhile_le (p : Char → Bool) (cs : List Char) :
    (cs.dropWhile p).length ≤ cs.length :=
  (List.dropWhile_sublist p).length_le

/-- The tokens of a text that starts on line `line`. -/
def lexemesFrom (line : Nat) (text : List Char) : Except Fault (List Lexeme) :=
  match text with
  | [] => .ok [⟨line, .eof⟩]
  | c :: rest =>
      if c = '\n' then (lexemesFrom (line + 1) rest).map (⟨line, .newline⟩ :: ·)
      else if Text.isBlank c then lexemesFrom line rest
      else if c = '#' then lexemesFrom line (rest.dropWhile (· != '\n'))
      else if c.isDigit then
        let digits := c :: rest.takeWhile Char.isDigit
        match Element.ofText? .i64 digits with
        | some n => (lexemesFrom line (rest.dropWhile Char.isDigit)).map (⟨line, .int n⟩ :: ·)
        | none => .error ⟨line, .badSyntax (.literalTooLarge (String.ofList digits))⟩
      else if isWordStart c then
        let word := String.ofList (c :: rest.takeWhile isWordPart)
        (lexemesFrom line (rest.dropWhile isWordPart)).map (⟨line, wordToken word⟩ :: ·)
      else
        match symbol? c with
        | some t => (lexemesFrom line rest).map (⟨line, t⟩ :: ·)
        | none => .error ⟨line, .badSyntax (.unexpectedChar c)⟩
termination_by text.length
decreasing_by
  all_goals simp only [List.length_cons]
  all_goals first
    | omega
    | exact Nat.lt_succ_of_le (length_dropWhile_le _ _)

/-- The tokens of a source. -/
def lexemes (source : List Char) : Except Fault (List Lexeme) := lexemesFrom 1 source

end Gridscript.Script
