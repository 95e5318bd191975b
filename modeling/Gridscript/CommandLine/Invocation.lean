/-
  The commands of the program and what their arguments ask for.
-/
import Gridscript.Command.Grid
import Gridscript.CommandLine.Arguments

namespace Gridscript.CommandLine

/-- What a command line asks for. -/
inductive Invocation where
  | run (script : String) (config dataDir : Option String) (noSave quiet : Bool)
  | shape (input : String)
  | unary (op : Command.Unary) (input : String) (output : Option String)
  | binary (op : Joint) (left right : String) (output : Option String)
  | row (input : String) (index : Nat) (scale shift : Option Scalar) (output : Option String)
deriving DecidableEq

/-- How a command line is answered. -/
inductive Request where
  | version
  | help
  | usage
  | invoke (invocation : Invocation)
deriving DecidableEq

def pathSlot : Slot := ⟨.path, true⟩

def outputOption : Opt := ⟨"output", some 'o', some .path⟩

def runLayout : Layout where
  slots := [pathSlot, ⟨.path, false⟩]
  options := [⟨"data-dir", some 'd', some .path⟩, ⟨"no-save", none, none⟩, ⟨"quiet", some 'q', none⟩]

def shapeLayout : Layout := ⟨[pathSlot], []⟩

def transposeLayout : Layout := ⟨[pathSlot], [outputOption]⟩

def scalarLayout : Layout := ⟨[pathSlot, ⟨.scalar, true⟩], [outputOption]⟩

def pairLayout : Layout := ⟨[pathSlot, pathSlot], [outputOption]⟩

def rowLayout : Layout where
  slots := [pathSlot, ⟨.count, true⟩]
  options := [⟨"scale", none, some .scalar⟩, ⟨"shift", none, some .scalar⟩, outputOption]

/-- Answer with what is made of the arguments of a command, if they can be read. -/
def answer (layout : Layout) (args : List String) (make : Reading → Option Invocation) :
    Request :=
  match readArguments layout args with
  | .error .help => .help
  | .error .usage => .usage
  | .ok r =>
      match make r with
      | some invocation => .invoke invocation
      | none => .usage

def makeRun (r : Reading) : Option Invocation :=
  match r.values with
  | [.path script] =>
      some (.run script none (r.path? "data-dir") (r.has "no-save") (r.has "quiet"))
  | [.path script, .path config] =>
      some (.run script (some config) (r.path? "data-dir") (r.has "no-save") (r.has "quiet"))
  | _ => none

def makeShape (r : Reading) : Option Invocation :=
  match r.values with
  | [.path input] => some (.shape input)
  | _ => none

def makeTranspose (r : Reading) : Option Invocation :=
  match r.values with
  | [.path input] => some (.unary .transpose input (r.path? "output"))
  | _ => none

def makeScalar (op : Scalar → Command.Unary) (r : Reading) : Option Invocation :=
  match r.values with
  | [.path input, .scalar s] => some (.unary (op s) input (r.path? "output"))
  | _ => none

def makePair (op : Joint) (r : Reading) : Option Invocation :=
  match r.values with
  | [.path left, .path right] => some (.binary op left right (r.path? "output"))
  | _ => none

def makeRow (r : Reading) : Option Invocation :=
  match r.values with
  | [.path input, .count index] =>
      some (.row input index (r.scalar? "scale") (r.scalar? "shift") (r.path? "output"))
  | _ => none

/-- The answer to the arguments of a named command. -/
def command? (name : String) (args : List String) : Option Request :=
  match name with
  | "run" => some (answer runLayout args makeRun)
  | "shape" => some (answer shapeLayout args makeShape)
  | "transpose" => some (answer transposeLayout args makeTranspose)
  | "multiply" => some (answer pairLayout args (makePair .multiply))
  | "add" => some (answer pairLayout args (makePair .add))
  | "scale" => some (answer scalarLayout args (makeScalar .scale))
  | "shift" => some (answer scalarLayout args (makeScalar .shift))
  | "row" => some (answer rowLayout args makeRow)
  | _ => none

/-- The names of the commands. -/
def commandNames : List String :=
  ["run", "shape", "transpose", "multiply", "add", "scale", "shift", "row"]

/-- The answer to a command line, of which the first argument decides. -/
def request : List String → Request
  | [] => .usage
  | first :: args =>
      match first.toList with
      | '-' :: 'V' :: _ => .version
      | '-' :: 'h' :: _ => .help
      | _ =>
          if first = "--version" then .version
          else if first = "--help" then .help
          else if first = "help" then
            match args with
            | [] => .help
            | [name] => if name = "help" ∨ name ∈ commandNames then .help else .usage
            | _ => .usage
          else (command? first args).getD .usage

end Gridscript.CommandLine
