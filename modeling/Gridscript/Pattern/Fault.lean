/-
  Why a text is no pattern, and how that is shown: the text with marks under the place of the
  fault, then what is wrong.
-/
import Gridscript.Text.Lines

namespace Gridscript.Pattern

/-- A place in the text of a pattern; lines and columns count from one. -/
structure Pos where
  line : Nat
  column : Nat
deriving DecidableEq

namespace Pos

def first : Pos := ⟨1, 1⟩

/-- The place after a character. -/
def next (p : Pos) (c : Char) : Pos :=
  if c = '\n' then ⟨p.line + 1, 1⟩ else ⟨p.line, p.column + 1⟩

end Pos

/-- A part of the text of a pattern. -/
structure Span where
  start : Pos
  stop : Pos
deriving DecidableEq

/-- What can be wrong with the text of a pattern. -/
inductive Issue where
  | setEscape
  | setRangeOrder
  | setRangeEnd
  | setUnclosed
  | countTooLarge
  | hexEmpty
  | hexNoCharacter
  | hexDigit
  | escapeUnfinished
  | escapeUnknown
  | flagNegationDangling
  | flagTwice
  | flagNegationTwice
  | flagUnfinished
  | flagUnknown
  | groupNameTwice
  | groupNameEmpty
  | groupNameCharacter
  | groupNameUnfinished
  | groupUnclosed
  | groupUnopened
  | nesting (limit : Nat)
  | countOrder
  | countMissing
  | countUnclosed
  | nothingToRepeat
  | wordEdgeUnclosed
  | wordEdgeUnknown
  | wordEdgeOrCount
  | propertySyntax
  | backreference
  | lookaround
  | unicodeRefused
  | partialCharacter
  | propertyUnknown
  | propertyValueUnknown
  | letterClassMissing
  | caselessMissing
deriving DecidableEq

def Issue.message : Issue → String
  | setEscape => "invalid escape sequence found in character class"
  | setRangeOrder => "invalid character class range, the start must be <= the end"
  | setRangeEnd => "invalid range boundary, must be a literal"
  | setUnclosed => "unclosed character class"
  | countTooLarge => "decimal literal invalid"
  | hexEmpty => "hexadecimal literal empty"
  | hexNoCharacter => "hexadecimal literal is not a Unicode scalar value"
  | hexDigit => "invalid hexadecimal digit"
  | escapeUnfinished => "incomplete escape sequence, reached end of pattern prematurely"
  | escapeUnknown => "unrecognized escape sequence"
  | flagNegationDangling => "dangling flag negation operator"
  | flagTwice => "duplicate flag"
  | flagNegationTwice => "flag negation operator repeated"
  | flagUnfinished => "expected flag but got end of regex"
  | flagUnknown => "unrecognized flag"
  | groupNameTwice => "duplicate capture group name"
  | groupNameEmpty => "empty capture group name"
  | groupNameCharacter => "invalid capture group character"
  | groupNameUnfinished => "unclosed capture group name"
  | groupUnclosed => "unclosed group"
  | groupUnopened => "unopened group"
  | nesting limit => s!"exceed the maximum number of nested parentheses/brackets ({limit})"
  | countOrder => "invalid repetition count range, the start must be <= the end"
  | countMissing => "repetition quantifier expects a valid decimal"
  | countUnclosed => "unclosed counted repetition"
  | nothingToRepeat => "repetition operator missing expression"
  | wordEdgeUnclosed =>
      "special word boundary assertion is either unclosed or contains an invalid character"
  | wordEdgeUnknown =>
      "unrecognized special word boundary assertion, valid choices are: start, end, " ++
        "start-half or end-half"
  | wordEdgeOrCount =>
      "found either the beginning of a special word boundary or a bounded repetition on a \\b " ++
        "with an opening brace, but no closing brace"
  | propertySyntax => "invalid Unicode character class"
  | backreference => "backreferences are not supported"
  | lookaround => "look-around, including look-ahead and look-behind, is not supported"
  | unicodeRefused => "Unicode not allowed here"
  | partialCharacter => "pattern can match invalid UTF-8"
  | propertyUnknown => "Unicode property not found"
  | propertyValueUnknown => "Unicode property value not found"
  | letterClassMissing =>
      "Unicode-aware Perl class not found (make sure the unicode-perl feature is enabled)"
  | caselessMissing =>
      "Unicode-aware case insensitivity matching is not available " ++
        "(make sure the unicode-case feature is enabled)"

/-- Something wrong, where it is, and where the thing it is at odds with is. -/
structure Fault where
  issue : Issue
  span : Span
  earlier : Option Span
deriving DecidableEq

/-! ## Wording -/

/-- Marks under the columns of spans that lie in one line, from a column on. -/
def underline (column : Nat) : List Span → List Char
  | [] => []
  | s :: rest =>
      let width := max 1 (s.stop.column - s.start.column)
      List.replicate (s.start.column - column) ' ' ++ List.replicate width '^' ++
        underline (max column s.start.column + width) rest

namespace Fault

/-- The spans to be marked, in the order of the text. -/
def spans (f : Fault) : List Span :=
  match f.earlier with
  | none => [f.span]
  | some e =>
      if e.start.line < f.span.start.line ∨
          (e.start.line = f.span.start.line ∧ e.start.column ≤ f.span.start.column) then
        [e, f.span]
      else [f.span, e]

/-- A line of the pattern, and the line with the marks under it, if it has any. -/
def notatedLine (f : Fault) (width : Nat) (number : Nat) (line : List Char) : List (List Char) :=
  let digits := (toString number).toList
  let margin :=
    if width = 0 then List.replicate 4 ' '
    else List.replicate (width - digits.length) ' ' ++ digits ++ [':', ' ']
  let marked := f.spans.filter fun s => s.start.line = number ∧ s.stop.line = number
  if marked = [] then [margin ++ line]
  else [margin ++ line, List.replicate margin.length ' ' ++ underline 1 marked]

/-- The lines of the pattern with marks under the spans. -/
def notated (f : Fault) (width : Nat) (number : Nat) : List (List Char) → List (List Char)
  | [] => []
  | line :: rest => f.notatedLine width number line ++ notated f width (number + 1) rest

/-- What is said about spans over several lines. -/
def wideNotes (f : Fault) : List (List Char) :=
  (f.spans.filter fun s => s.start.line ≠ s.stop.line).map fun s =>
    let said := s!"on line {s.start.line} (column {s.start.column}) through line " ++
      s!"{s.stop.line} (column {s.stop.column - 1})"
    said.toList

/-- The fault in the text of a pattern. A pattern of several lines stands between rules, with
    its lines numbered. -/
def message (f : Fault) (pattern : List Char) : String :=
  let lines := Text.lines pattern
  let said := ("error: " ++ f.issue.message).toList
  let whole :=
    if pattern.contains '\n' then
      let count := lines.length + (if pattern.getLast? = some '\n' then 1 else 0)
      let rule := List.replicate 79 '~'
      [rule] ++ f.notated (toString count).length 1 lines ++ [rule] ++ f.wideNotes ++ [said]
    else f.notated 0 1 lines ++ [said]
  "\n".intercalate ("regex parse error:" :: whole.map String.ofList)

end Fault

end Gridscript.Pattern
