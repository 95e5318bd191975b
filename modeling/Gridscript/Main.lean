/-
  The program: take in the working folder, carry out the command line, write back the files that
  it changed, and print.
-/
import Gridscript.CommandLine.Completion

namespace Gridscript

/-- The tree with what lies at and under an entry of a folder. -/
partial def takeIn (folder : Folder) (above : Place) (entry : IO.FS.DirEntry) : IO Folder := do
  let place := above ++ [entry.fileName]
  if ← entry.path.isDir then
    let mut folder := folder.put place .folder
    for inner in ← entry.path.readDir do
      folder ← takeIn folder place inner
    return folder
  else
    let bytes ← IO.FS.readBinFile entry.path
    return folder.put place (.file bytes.toList)

/-- The working folder as it is. -/
def workingFolder : IO Folder := do
  let mut folder := Folder.empty
  for entry in ← (← IO.currentDir).readDir do
    folder ← takeIn folder [] entry
  return folder

/-- Write the files that differ from what was taken in. -/
def writeBack (before after : Folder) : IO Unit := do
  for (place, node) in after.entries do
    if before.find? place ≠ some node then
      match node with
      | .file bytes => IO.FS.writeBinFile ("/".intercalate place) ⟨bytes.toArray⟩
      | .folder => IO.FS.createDirAll ("/".intercalate place)

end Gridscript

open Gridscript in
def main (args : List String) : IO UInt32 := do
  let before ← workingFolder
  let done := CommandLine.complete before (← IO.getEnv "CSVSCRIPT_LOG") args
  writeBack before done.folder
  IO.eprint done.errors
  IO.print done.printed
  return UInt32.ofNat done.exit
