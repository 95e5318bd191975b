/-
  Grids as comma-separated text.

  Written: one line for each row, decimal integers with commas between them, a line feed after
  each line. Read: the shape of the text is found first; then each record has to hold as many
  integers as there are columns, with at most one more comma at its end, and there have to be
  as many records as rows.
-/
import Gridscript.Csv.Record
import Gridscript.Element.Decimal
import Gridscript.Grid.Assembly
import Gridscript.Text.Utf8

namespace Gridscript.Csv

variable {τ : IntType}

/-! ## Writing -/

/-- Elements with commas between them. -/
def line (row : List (Element τ)) : List Char := [','].intercalate (row.map Element.text)

/-- The text of a grid. -/
def text (g : Grid (Element τ)) : List Char := g.toRows.flatMap fun row => line row ++ ['\n']

/-! ## Reading -/

/-- The element in a field. -/
def readField (τ : IntType) (line : Nat) (field : List Char) : Except GridFault (Element τ) :=
  match Element.ofText? τ field with
  | some a => .ok a
  | none => .error (.csv line (.notInteger (String.ofList field)))

/-- The elements of a record, of which there have to be `cols`. An empty field beyond them at
    the end of the record is what a comma there leaves, and is dropped. -/
def readRecord (τ : IntType) (cols : Nat) (r : Record) : Except GridFault (List (Element τ)) :=
  let fields :=
    if r.fields.length = cols + 1 ∧ r.fields.getLast? = some [] then r.fields.dropLast
    else r.fields
  if fields.length = cols then fields.mapM (readField τ r.line)
  else .error (.csv r.line (.fieldCount cols fields.length))

/-- Put the elements of records into an assembly, one row for each. -/
def fill (b : Assembly (Element τ)) : List Record → Except GridFault (Assembly (Element τ))
  | [] => .ok b
  | r :: rest =>
      if b.isComplete then .error (.csv r.line (.rowCount b.shape.rows (b.filled + 1)))
      else do
        let row ← readRecord τ b.shape.cols r
        let b ← b.push row
        fill b rest

/-- The grid in a text. The room that is set aside for all cells of the shape before the first
    record is read is left out: the assembly is `start`, and not `Assembly.reserve?`. -/
def read (τ : IntType) (text : List Char) : Except GridFault (Grid (Element τ)) :=
  let shape := shapeOf text
  if shape.isEmpty then .error (.csv 1 .noRows)
  else do
    let b ← Assembly.start shape
    let b ← fill b (records 1 (dropMark text))
    b.finish

/-! ## Bytes -/

/-- A byte that separates fields. -/
def isSeparator (b : UInt8) : Bool := b == 0x2C || b == 0x0A || b == 0x0D

/-- The text that bytes stand for. If they stand for none, the field around the first byte that
    belongs to no character is reported, as it would be shown. -/
def decode (bytes : List UInt8) : Except GridFault (List Char) :=
  match Utf8.decode? bytes with
  | some text => .ok text
  | none =>
      let before := bytes.take (Utf8.validLength bytes)
      let after := bytes.drop (Utf8.validLength bytes)
      let field := (before.reverse.takeWhile fun b => !isSeparator b).reverse
        ++ after.takeWhile fun b => !isSeparator b
      .error (.csv (before.count 0x0A + 1) (.notInteger (String.ofList (Utf8.lossy field))))

/-- The grid in the text that bytes stand for. -/
def readBytes (τ : IntType) (bytes : List UInt8) : Except GridFault (Grid (Element τ)) := do
  let text ← decode bytes
  read τ text

end Gridscript.Csv
