/-
  The pattern that a text stands for.

  Flags hold from where they are switched to the end of the group around, and are carried through
  the tree from left to right. With the flag `unicode`, which is on at first, classes, properties,
  cases of letters and edges of words are those of Unicode, and as no tables are kept for these,
  all that asks for one is refused. Without it they are those of ASCII, and what could match a part
  of a character's encoding is refused.
-/
import Gridscript.Pattern.Reader
import Gridscript.Pattern.Weight

namespace Gridscript.Pattern

structure Flags where
  caseless : Bool := false
  lines : Bool := false
  dotAll : Bool := false
  greedySwap : Bool := false
  crlf : Bool := false
  ascii : Bool := false
deriving DecidableEq

namespace Flags

def set (f : Flags) : Flag × Bool → Flags
  | (.caseless, on) => { f with caseless := on }
  | (.lines, on) => { f with lines := on }
  | (.dotAll, on) => { f with dotAll := on }
  | (.greedySwap, on) => { f with greedySwap := on }
  | (.crlf, on) => { f with crlf := on }
  | (.unicode, on) => { f with ascii := !on }
  | (.free, _) => f

def change (f : Flags) (changes : FlagChange) : Flags := changes.foldl set f

/-- Ignore case, if the flags say so. Without a table that is refused for a set that names
    characters; all others are empty or full. -/
def fold (f : Flags) (span : Span) (namesChars : Bool) (s : CharSet) : Except Fault CharSet :=
  if !f.caseless then .ok s
  else if f.ascii then .ok s.asciiCaseless
  else if namesChars then fail .caselessMissing span
  else .ok s

/-- The set, or all other characters. -/
def turn (f : Flags) (span : Span) (negated : Bool) (s : CharSet) : Except Fault CharSet :=
  if !negated then .ok s
  else if f.ascii then fail .partialCharacter span
  else .ok s.compl

end Flags

/-! ## Sets -/

def AsciiClass.chars : AsciiClass → CharSet
  | alnum => .asciiAlnum
  | alpha => .asciiAlpha
  | ascii => .range '\x00' '\x7f'
  | blank => .listed ['\t', ' ']
  | cntrl => .unions [.range '\x00' '\x1f', .single '\x7f']
  | digit => .asciiDigit
  | graph => .range '!' '~'
  | lower => .asciiLower
  | print => .range ' ' '~'
  | punct => .unions [.range '!' '/', .range ':' '@', .range '[' '\x60', .range '\x7b' '~']
  | space => .asciiBlank
  | upper => .asciiUpper
  | word => .asciiWord
  | xdigit => .unions [.asciiDigit, .range 'A' 'F', .range 'a' 'f']

def LetterClass.chars : LetterClass → CharSet
  | digit => .asciiDigit
  | blank => .asciiBlank
  | word => .asciiWord

/-- The name without case, blanks and connecting signs, and without a leading `is`. -/
def plainName (name : List Char) : List Char :=
  let plain := fun (cs : List Char) =>
    (cs.filter fun c => c.toNat < 128 && c != ' ' && c != '_' && c != '-').map Char.toLower
  match name with
  | a :: b :: rest =>
      if a.toLower = 'i' ∧ b.toLower = 's' ∧ plain rest ≠ ['c'] then plain rest else plain name
  | _ => plain name

/-- Why a property is refused. Three names are those of values before they are those of
    properties. -/
def Property.issue (p : Property) : Issue :=
  if !p.valued && ["cf", "sc", "lc"].contains (String.ofList (plainName p.name)) then
    .propertyValueUnknown
  else .propertyUnknown

/-- The character as an item of a set. -/
def Literal.item (f : Flags) (l : Literal) : Except Fault Char :=
  if f.ascii ∧ 128 ≤ l.char.toNat then
    fail (if l.byte then .partialCharacter else .unicodeRefused) l.span
  else .ok l.char

def SetOp.chars : SetOp → CharSet → CharSet → CharSet
  | inter => .inter
  | diff => .diff
  | symmDiff => .symmDiff

mutual

/-- The characters of a set. Of the sides of an operator the right one is folded first. -/
def SetTree.chars (f : Flags) : SetTree → Except Fault CharSet
  | .empty _ => .ok .none
  | .char l => do return .single (← l.item f)
  | .range first last => do
      let low ← first.item f
      let high ← last.item f
      return .range low high
  | .ascii span negated name => do f.turn span negated (← f.fold span true name.chars)
  | .letter span negated name =>
      if f.ascii then f.turn span negated name.chars else fail .letterClassMissing span
  | .property span property =>
      fail (if f.ascii then .unicodeRefused else property.issue) span
  | .bracket span negated inner => do
      let s ← inner.chars f
      f.turn span negated (← f.fold span inner.namesChars s)
  | .union _ items => do return .unions (← itemChars f items)
  | .op _ op left right => do
      let l ← left.chars f
      let r ← right.chars f
      let r ← f.fold right.span right.namesChars r
      let l ← f.fold left.span left.namesChars l
      return op.chars l r

def itemChars (f : Flags) : List SetTree → Except Fault (List CharSet)
  | [] => .ok []
  | s :: rest => do
      let first ← s.chars f
      let others ← itemChars f rest
      return first :: others

end

/-! ## Patterns -/

def Condition.anchor (f : Flags) : Condition → Anchor
  | lineStart => if f.lines then .lineStart f.crlf else .textStart
  | lineEnd => if f.lines then .lineEnd f.crlf else .textEnd
  | textStart => .textStart
  | textEnd => .textEnd
  | wordBoundary => .word .boundary (!f.ascii)
  | wordInside => .word .inside (!f.ascii)
  | wordStart => .word .start (!f.ascii)
  | wordEnd => .word .stop (!f.ascii)
  | wordStartHalf => .word .startHalf (!f.ascii)
  | wordEndHalf => .word .stopHalf (!f.ascii)

/-- What the dot stands for. -/
def dotChars (f : Flags) : CharSet :=
  if f.dotAll then .any
  else if f.crlf then (CharSet.listed ['\r', '\n']).compl
  else (CharSet.single '\n').compl

/-- The pattern of a character by itself. -/
def Literal.pattern (f : Flags) (l : Literal) : Except Fault Pattern :=
  if f.ascii ∧ l.byte ∧ 128 ≤ l.char.toNat then fail .partialCharacter l.span
  else do return ofSet (← f.fold l.span true (.single l.char))

mutual

/-- The pattern of a tree under flags, and the flags after it. -/
def Tree.pattern (f : Flags) : Tree → Except Fault (Pattern × Flags)
  | .empty => .ok (.empty, f)
  | .flags change => .ok (.empty, f.change change)
  | .char l => do return (← l.pattern f, f)
  | .dot span => if f.ascii then fail .partialCharacter span else .ok (.chars (dotChars f), f)
  | .condition c => .ok (.anchor (c.anchor f), f)
  | .set s => do return (ofSet (← s.chars f), f)
  | .times _ least most lazy inner => do
      let (p, f) ← inner.pattern f
      return (p.repeated least most (lazy != f.greedySwap), f)
  | .group _ number change inner => do
      let (p, _) ← inner.pattern (f.change change)
      match number with
      | some n => return (.capture n p, f)
      | none => return (p, f)
  | .seq _ items => do
      let (ps, f) ← itemPatterns f items
      return (concat ps, f)
  | .alt _ branches => do
      let (ps, f) ← itemPatterns f branches
      return (choice ps, f)

def itemPatterns (f : Flags) : List Tree → Except Fault (List Pattern × Flags)
  | [] => .ok ([], f)
  | t :: rest => do
      let (p, f) ← t.pattern f
      let (ps, f) ← itemPatterns f rest
      return (p :: ps, f)

end

/-! ## Reading -/

/-- The most room that an automaton may take up. -/
def maxBytes : Nat := 10485760

/-- The pattern asks for edges of words by the rules of Unicode. -/
def needsUnicodeWords : Pattern → Bool
  | anchor (.word _ unicode) => unicode
  | capture _ p => p.needsUnicodeWords
  | times p _ _ _ => p.needsUnicodeWords
  | seq p q => p.needsUnicodeWords || q.needsUnicodeWords
  | alt p q => p.needsUnicodeWords || q.needsUnicodeWords
  | _ => false

/-- Why a text is not taken as a pattern. -/
inductive Refusal where
  | fault (f : Fault)
  | tooBig
  | wordsMissing
deriving DecidableEq

def Refusal.message (pattern : List Char) : Refusal → String
  | fault f => f.message pattern
  | tooBig => s!"Compiled regex exceeds size limit of {maxBytes} bytes."
  | wordsMissing => "error building NFA"

/-- The pattern that a text stands for. The automaton that reads forwards is built first. -/
def ofText (text : List Char) : Except Refusal Pattern :=
  match Tree.ofText text with
  | .error f => .error (.fault f)
  | .ok t =>
      match t.pattern {} with
      | .error f => .error (.fault f)
      | .ok (p, _) =>
          if maxBytes < p.automatonBytes .forwards then .error .tooBig
          else if p.needsUnicodeWords then .error .wordsMissing
          else if maxBytes < p.automatonBytes .backwards then .error .tooBig
          else .ok p

end Gridscript.Pattern
