/-
  Carrying out a command line: the files it leaves, what it prints, and how it ends.
-/
import Gridscript.Command.Script
import Gridscript.CommandLine.Invocation
import Gridscript.Log.Filter
import Gridscript.Settings.Json
import Gridscript.Text.Quoted

namespace Gridscript.CommandLine

/-- Something for the error output: a log record, which may be filtered, or plain lines. -/
inductive Notice where
  | entry (e : Log.Entry)
  | plain (text : String)
deriving DecidableEq

/-- What carrying out an invocation led to. -/
structure Performed where
  folder : Folder
  printed : String
  notices : List Notice
  result : Except Failure Unit

/-- How the program ended. -/
structure Completion where
  exit : Nat
  printed : String
  errors : String
  folder : Folder

/-- The settings of a run: those of a file or the standard ones, then the options. -/
def chosenSettings (base : Settings) (dataDir : Option String) (noSave quiet : Bool) : Settings where
  dataDir := dataDir.getD base.dataDir
  savePersistent := base.savePersistent && !noSave
  echoExpressions := base.echoExpressions && !quiet

/-- The settings that a run starts from, and what is said about them. -/
def baseSettings (folder : Folder) (config : Option String) :
    List Notice × Except Failure Settings :=
  match config with
  | some path =>
      ([.entry ⟨.info, .runCommand, s!"[CsvScript::Run] Using config: {Text.quoted path}"⟩],
        (Settings.load folder path).mapError fun f => ⟨f.causes⟩)
  | none =>
      let standard : Settings := {}
      ([.plain "[CsvScript::Run] No config file provided; using defaults.",
        .plain (String.ofList standard.pretty)], .ok standard)

def performRun (folder : Folder) (script : String) (config dataDir : Option String)
    (noSave quiet : Bool) : Performed :=
  let opening : Notice := .entry
    ⟨.info, .program, s!"[CsvScript::Run] Running script: {Text.quoted script}"⟩
  let (said, base) := baseSettings folder config
  match base with
  | .error f => ⟨folder, "", opening :: said, .error f⟩
  | .ok base =>
      let ran := Command.runFile folder script (chosenSettings base dataDir noSave quiet)
      let notices := opening :: said ++ ran.log.map .entry
      match ran.result with
      | .error f => ⟨ran.folder, "", notices, .error f⟩
      | .ok report =>
          ⟨ran.folder, Command.reportText report,
            notices ++ (Command.reportLog report).map .entry, .ok ()⟩

/-- A computation and the output of its value, as one. -/
def performWrite (folder : Folder) (t : Traced Failure Command.Written) : Performed :=
  match t.result with
  | .error f => ⟨folder, "", t.log.map .entry, .error f⟩
  | .ok w => ⟨w.folder, String.ofList w.printed, t.log.map .entry, .ok ()⟩

/-- The printed shape of the grid in a file. -/
def shapeText (folder : Folder) (input : String) : Traced Failure Command.Written := do
  let grid ← Command.input folder input
  return ⟨folder, s!"{grid.rows} x {grid.cols}\n".toList⟩

def perform (folder : Folder) : Invocation → Performed
  | .run script config dataDir noSave quiet =>
      performRun folder script config dataDir noSave quiet
  | .shape input => performWrite folder (shapeText folder input)
  | .unary op input output => performWrite folder do
      let grid ← Command.unary folder input op
      Command.writeGrid folder grid output
  | .binary op left right output => performWrite folder do
      let grid ← Command.binary folder left right op
      Command.writeGrid folder grid output
  | .row input index scale shift output => performWrite folder do
      let row ← Command.row folder input index scale shift
      Command.writeRow folder row output

/-- What a notice adds to the error output under a filter. -/
def Notice.text (filter : Log.Filter) : Notice → String
  | entry e => if filter.admits e then e.line ++ "\n" else ""
  | plain text => text ++ "\n"

/-- The error output that notices lead to under a filter. -/
def errorText (filter : Log.Filter) (notices : List Notice) : String :=
  String.join (notices.map (·.text filter))

/-- The program's name and version. -/
def versionText : String := "csvscript 0.1.0\n"

/-- Carry out a command line. A failure is logged and ends the program with code 1; a command
    line that asks for nothing known ends it with code 2. What is wrong with the text of the
    filter is said before all else. -/
def complete (folder : Folder) (filterText : Option String) (args : List String) : Completion :=
  let (filter, warnings) := match filterText with
    | some text => Log.Filter.ofText text.toList
    | none => (Log.Filter.standard, [])
  let opening := warnings.map fun w => Notice.plain w.text
  match request args with
  | .usage => ⟨2, "", errorText filter opening, folder⟩
  | .help => ⟨0, "", errorText filter opening, folder⟩
  | .version => ⟨0, versionText, errorText filter opening, folder⟩
  | .invoke invocation =>
      let done := perform folder invocation
      match done.result with
      | .ok () => ⟨0, done.printed, errorText filter (opening ++ done.notices), done.folder⟩
      | .error f =>
          let last : Notice := .entry ⟨.error, .program, f.message⟩
          ⟨1, done.printed, errorText filter (opening ++ done.notices ++ [last]), done.folder⟩

end Gridscript.CommandLine
