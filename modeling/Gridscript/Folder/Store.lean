/-
  Grids in files: loading and saving, with the records that both make.
-/
import Gridscript.Csv.Table
import Gridscript.Folder.Basic
import Gridscript.Log.Basic

namespace Gridscript

namespace Csv

/-- The grid in a text. A text with cells has its shape recorded. -/
def readTraced (τ : IntType) (text : List Char) : Traced GridFault (Grid (Element τ)) := do
  if !(shapeOf text).isEmpty then
    Traced.note .debug .codec s!"Scanned shape {(shapeOf text).text}"
  Traced.lift (read τ text)

/-- The grid in the text that bytes stand for. -/
def readBytesTraced (τ : IntType) (bytes : List UInt8) : Traced GridFault (Grid (Element τ)) := do
  let text ← Traced.lift (decode bytes)
  readTraced τ text

end Csv

namespace Folder

/-- The bytes of a file; the fault names the path. -/
def readGridFile (f : Folder) (path : String) : Except GridFault (List UInt8) :=
  (f.read path).mapError (.file path)

/-- The grid in a file. -/
def loadGrid (τ : IntType) (f : Folder) (path : String) :
    Traced GridFault (Grid (Element τ)) := do
  let bytes ← Traced.lift (f.readGridFile path)
  let grid ← Csv.readBytesTraced τ bytes
  Traced.note .debug .codec s!"Loaded {grid.shape.text} matrix from {path}"
  return grid

/-- The tree after a grid has been written to a file. -/
def saveGrid {τ : IntType} (f : Folder) (path : String) (grid : Grid (Element τ)) :
    Traced GridFault Folder := do
  let f ← Traced.lift ((f.write path (Utf8.encode (Csv.text grid))).mapError (.file path))
  Traced.note .debug .codec s!"Saved {grid.shape.text} matrix to {path}"
  return f

/-- The text of a file. -/
def readText (f : Folder) (path : String) : Except FileFault (List Char) :=
  match f.read path with
  | .error e => .error e
  | .ok bytes =>
      match Utf8.decode? bytes with
      | some text => .ok text
      | none => .error .notText

end Folder

end Gridscript
