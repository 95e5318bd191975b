/-
  The command that runs a script file, and the text of its report.
-/
import Gridscript.Command.Failure
import Gridscript.Script.Session

namespace Gridscript.Command

open Script

/-- What running a script file left behind. -/
structure Ran where
  folder : Folder
  log : List Log.Entry
  result : Except Failure Report

/-- Run the script in a file. -/
def runFile (folder : Folder) (path : String) (settings : Settings) : Ran :=
  match folder.readText path with
  | .error f => ⟨folder, [], .error (.under s!"Failed to read script: {path}" [f.message])⟩
  | .ok source =>
      match parse source with
      | .error f => ⟨folder, [], .error (.under s!"Failed to parse script: {path}" f.causes)⟩
      | .ok program =>
          let opening : Log.Entry := ⟨.info, .runCommand,
            s!"[CsvScript::Run] {program.length} statements, data directory {settings.dataDir}"⟩
          let ran := (Session.start settings).run folder program
          ⟨ran.state.2, opening :: ran.log,
            ran.result.mapError fun f => .under s!"Failed to run script: {path}" f.causes⟩

/-- The reported values, one on a line after the number of its statement's line. -/
def reportText (report : Report) : String :=
  String.join (report.echoed.map fun e => s!"{e.line}: {e.value.display}\n")

/-- The records of the files that were written. -/
def reportLog (report : Report) : List Log.Entry :=
  report.saved.map fun path => ⟨.info, .runCommand, s!"[CsvScript::Run] Saved {path}"⟩

end Gridscript.Command
