/-
  Records of comma-separated text.

  A record is a run of characters between line ends, cut at its commas; there is none between
  two line ends that follow each other. Its line number is one more than the number of line
  feeds before the place where its reading began, which is right after the one character that
  ended the record before it.
-/
import Gridscript.Csv.Shape

namespace Gridscript.Csv

/-- The fields of a record and the line it is reported for. -/
structure Record where
  line : Nat
  fields : List (List Char)
deriving DecidableEq

/-- The records of a text whose reading begins on line `line`. -/
def records (line : Nat) (text : List Char) : List Record :=
  let blank := text.takeWhile isLineEnd
  let body := text.dropWhile isLineEnd
  if body = [] then []
  else
    let content := body.takeWhile fun c => !isLineEnd c
    let rest := body.dropWhile fun c => !isLineEnd c
    ⟨line, content.splitOn ','⟩ ::
      records (line + blank.count '\n' + (rest.take 1).count '\n') (rest.drop 1)
termination_by text.length
decreasing_by
  rename_i hne
  have h1 := (List.dropWhile_sublist isLineEnd (l := text)).length_le
  have h2 := (List.dropWhile_sublist (fun c => !isLineEnd c)
    (l := text.dropWhile isLineEnd)).length_le
  have h3 := List.length_pos_iff.2 hne
  simp only [List.length_drop, body] at h3 ⊢
  omega

/-- The text without a byte order mark at its start. -/
def dropMark : List Char → List Char
  | '\uFEFF' :: rest => rest
  | text => text

end Gridscript.Csv
