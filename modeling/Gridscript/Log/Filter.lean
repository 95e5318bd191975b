/-
  Which log records are shown.

  A filter is a list of directives and perhaps a pattern. A directive admits records up to a
  level, either for all targets or for those whose name starts with a given text. The directive
  with the longest such text decides. Without any other directive for all targets, errors are
  shown. Of the records that the directives admit, only those are shown whose message holds a
  match of the pattern. Parts of a filter's text that make no sense are left out with a warning.
-/
import Gridscript.Log.Basic
import Gridscript.Pattern.Meaning

namespace Gridscript.Log

/-- Admit records up to a rank for targets that start with `target`. -/
structure Directive where
  target : List Char
  rank : Nat
deriving DecidableEq

/-- A later directive replaces an earlier one for the same target. -/
structure Filter where
  directives : List Directive
  pattern : Option Pattern
deriving DecidableEq

/-- What is wrong with the text of a filter. -/
inductive Warning where
  | badPart (part : List Char)
  | manySlashes (text : List Char)
  | badPattern (pattern : List Char) (refusal : Pattern.Refusal)
deriving DecidableEq

def Warning.text : Warning → String
  | badPart part => s!"warning: invalid logging spec '{String.ofList part}', ignoring it"
  | manySlashes text =>
      s!"warning: invalid logging spec '{String.ofList text}', ignoring it (too many '/'s)"
  | badPattern pattern refusal =>
      s!"warning: invalid regex filter - {refusal.message pattern}"

/-- The rank that the name of a level stands for, in any case of letters. -/
def rank? (name : List Char) : Option Nat :=
  match String.ofList (name.map Char.toLower) with
  | "off" => some 0
  | "error" => some 1
  | "warn" => some 2
  | "info" => some 3
  | "debug" => some 4
  | "trace" => some 5
  | _ => none

/-- The text without blanks at its ends. -/
def trim (text : List Char) : List Char :=
  ((text.dropWhile Text.isBlank).reverse.dropWhile Text.isBlank).reverse

/-- The directive that one part of a filter text stands for, if it is not blank: a level, a
    target with a level, or a target alone, which admits everything. -/
def Directive.ofText? (part : List Char) : Except Warning (Option Directive) :=
  let part := trim part
  match part.splitOn '=' with
  | [name] =>
      if name = [] then .ok none
      else
        match rank? name with
        | some rank => .ok (some ⟨[], rank⟩)
        | none => .ok (some ⟨name, 5⟩)
  | [target, level] =>
      if trim level = [] then .ok (some ⟨target, 5⟩)
      else
        match rank? (trim level) with
        | some rank => .ok (some ⟨target, rank⟩)
        | none => .error (.badPart (trim level))
  | _ => .error (.badPart part)

/-- The directives that parts of a filter text stand for, and what is wrong with the others. -/
def readParts : List (List Char) → List Directive × List Warning
  | [] => ([], [])
  | part :: rest =>
      let (ds, ws) := readParts rest
      match Directive.ofText? part with
      | .ok none => (ds, ws)
      | .ok (some d) => (d :: ds, ws)
      | .error w => (ds, w :: ws)

namespace Filter

/-- The directive below all others: errors are shown. -/
def base : Directive := ⟨[], Level.error.rank⟩

/-- The filter that a text stands for, with commas between directives and the pattern after a
    slash, and what is wrong with the text. -/
def ofText (text : List Char) : Filter × List Warning :=
  match text.splitOn '/' with
  | [parts] =>
      let (ds, ws) := readParts (parts.splitOn ',')
      (⟨base :: ds, none⟩, ws)
  | [parts, pattern] =>
      let (ds, ws) := readParts (parts.splitOn ',')
      match Pattern.ofText pattern with
      | .ok p => (⟨base :: ds, some p⟩, ws)
      | .error refusal => (⟨base :: ds, none⟩, ws ++ [.badPattern pattern refusal])
  | _ => (⟨[base], none⟩, [.manySlashes text])

/-- The filter that is used when none is given: information of the program's own parts, and
    errors of all others. -/
def standard : Filter := (ofText "error,csvscript=info".toList).1

/-- The directive that decides on a target: the longest that fits, and the last of these. -/
def deciding? (f : Filter) (target : List Char) : Option Directive :=
  f.directives.foldl (fun best d =>
    if d.target.isPrefixOf target then
      match best with
      | some b => if b.target.length ≤ d.target.length then some d else some b
      | none => some d
    else best) none

/-- The record is shown. -/
def admits (f : Filter) (e : Entry) : Bool :=
  match f.deciding? e.origin.target.toList with
  | none => false
  | some d => e.level.rank ≤ d.rank && f.pattern.all (·.foundIn e.message.toList)

end Filter

end Gridscript.Log
