/-
  Settings of a run: where grids are kept, whether they are written back, and whether the values
  of bare expressions are reported.
-/
import Gridscript.Folder.Path

namespace Gridscript

structure Settings where
  /-- The folder that holds the file of each persistent grid. -/
  dataDir : String := "."
  /-- Persistent grids are written back at the end of a run. -/
  savePersistent : Bool := true
  /-- Values of bare expressions are reported. -/
  echoExpressions : Bool := true
deriving DecidableEq

/-- The path of the file of a persistent grid. -/
def Settings.gridPath (s : Settings) (name : String) : String :=
  Path.join s.dataDir (name ++ ".csv")

end Gridscript
